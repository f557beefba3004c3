import EspFrp.NatHole.Controller
import Mathlib.Data.List.Nodup

/-!
# Ownership in the rendezvous controller

Every configuration is owned by a registered control, every session in the
table is between two registered controls and under the configuration it was
opened with, and a channel is closed exactly when its object leaves the
table.  The identifiers of new sessions are assumed not to be in use.
-/

namespace EspFrp.NatHole

open Binding

/-! ## Objects that leave a table -/

/-- Of the objects that were numbered, each has left or is present. -/
def Accounted (gone present : List Nat) (count : Nat) : Prop :=
  (gone ++ present).Perm (List.range count)

namespace Accounted

theorem nodup (accounted : Accounted gone present count) : gone.Nodup :=
  (List.nodup_append.mp (accounted.nodup_iff.mpr List.nodup_range)).1

theorem mem_iff (accounted : Accounted gone present count) (ref : Nat) :
    ref ∈ gone ↔ ref < count ∧ ref ∉ present := by
  have apart := (List.nodup_append.mp (accounted.nodup_iff.mpr List.nodup_range)).2.2
  have either := List.Perm.mem_iff (a := ref) accounted
  rw [List.mem_append, List.mem_range] at either
  constructor
  · intro left
    exact ⟨either.mp (.inl left), fun here => apart _ left _ here rfl⟩
  · rintro ⟨numbered, absent⟩
    exact (either.mpr numbered).resolve_right absent

theorem insert (accounted : Accounted gone present count) :
    Accounted gone (count :: present) (count + 1) := by
  rw [Accounted, List.range_succ]
  exact List.perm_middle.trans ((accounted.cons count).trans (List.perm_append_singleton _ _).symm)

theorem delete {Object : Type} {ref : Object → Nat} {table : List Object}
    (accounted : Accounted gone (table.map ref) count) (leaves : Object → Bool) :
    Accounted (gone ++ (table.filter leaves).map ref)
      ((table.filter fun object => !leaves object).map ref) count := by
  rw [Accounted, List.append_assoc, ← List.map_append]
  exact (((List.filter_append_perm leaves table).map ref).append_left gone).trans accounted

end Accounted

/-- The first object that is looked for stays the first. -/
theorem find?_filter_some {Object : Type} {wanted keeps : Object → Bool} {table : List Object}
    {object : Object} (found : table.find? wanted = some object) (kept : keeps object = true) :
    (table.filter keeps).find? wanted = some object := by
  induction table with
  | nil => cases found
  | cons head _ ih =>
    rw [List.find?_cons] at found
    cases match_ : wanted head with
    | true =>
      rw [match_] at found
      cases found
      rw [List.filter_cons_of_pos kept, List.find?_cons, match_]
    | false =>
      rw [match_] at found
      cases keep : keeps head with
      | true =>
        rw [List.filter_cons_of_pos keep, List.find?_cons, match_]
        exact ih found
      | false =>
        rw [List.filter_cons_of_neg (by rw [keep]; exact nofun)]
        exact ih found

/-! ## What the transitions do -/

variable {id : Identifier}

theorem identifier?_cells {bytes : List UInt8}
    (read : identifier? bytes = some id) : id.cells = bytes := by
  rw [identifier?] at read
  split at read
  · split at read
    · cases read
      rfl
    · cases read
  · cases read

namespace Controller

variable {controller : Controller}

theorem clientCfg_name {name : List UInt8} {cfg : ClientCfg}
    (found : controller.clientCfg name = some cfg) : cfg.name = name := by
  rw [clientCfg] at found
  simpa using List.find?_some found

/-- The texts that do not depend on the request. -/
def plainTexts : List (List UInt8) :=
  [[], ascii "candidate authenticated control required",
    ascii "closed control", ascii "SID entropy failure", errBinding]

/-- Why a visitor is answered at once. -/
inductive Reason (services : Services) (visitor : Visitor)
    (user : List UInt8) : List UInt8 → Prop where
  | plain {text} (known : text ∈ plainTexts) : Reason services visitor user text
  | missing : Reason services visitor user (missing visitor.proxyName)
  | notAllowed : Reason services visitor user (notAllowed user visitor.proxyName)
  | certificate {text} (refused : services.validateCertificate .visitor visitor.certificate
        visitor.spki = some text) :
      Reason services visitor user text

theorem preCheck_reason (visitor : Visitor) (user : List UInt8) (caller : Identifier) :
    Reason services visitor user (controller.preCheck visitor user caller) := by
  rw [preCheck]
  split
  · exact .plain (by simp [plainTexts])
  split
  · exact .missing
  split
  · exact .notAllowed
  · exact .plain (by simp [plainTexts])

theorem admission_reason
    (refused : controller.admission services visitor user caller now = .error error) :
    Reason services visitor user error := by
  have binding : Reason services visitor user errBinding := .plain (by simp [plainTexts])
  rw [admission] at refused
  split at refused
  · cases refused
    exact binding
  split at refused
  · cases refused
    exact .missing
  split at refused
  · cases refused
    exact .notAllowed
  split at refused
  · cases refused
    exact binding
  split at refused
  · cases refused
    exact binding
  split at refused
  next certificate =>
    cases refused
    exact .certificate certificate
  · cases refused

/-- A visitor is answered at once, or a session is opened. -/
theorem handleVisitor_cases (visitor : Visitor) (transporter : Nat)
    (user callerControlId : List UInt8) (entropy : Option Identifier) (now : Int64) :
    (∃ error, Reason services visitor user error ∧
        controller.handleVisitor services visitor transporter user callerControlId entropy now =
          controller.send transporter (genNatHoleResponse visitor.transactionId error) none) ∨
      ∃ caller id cfg, identifier? callerControlId = some caller ∧ entropy = some id ∧
        controller.admission services visitor user caller now = .ok cfg ∧
        controller.handleVisitor services visitor transporter user callerControlId entropy now =
          controller.openSession visitor transporter caller id cfg := by
  rw [handleVisitor]
  split
  · exact .inl ⟨_, .plain (by simp [plainTexts]), rfl⟩
  next caller known =>
    split
    · exact .inl ⟨_, preCheck_reason visitor user caller, rfl⟩
    split
    · exact .inl ⟨_, .plain (by simp [plainTexts]), rfl⟩
    next id =>
      split
      next refused => exact .inl ⟨_, admission_reason refused, rfl⟩
      next cfg admitted => exact .inr ⟨caller, id, cfg, known, rfl, admitted, rfl⟩

/-- What is known of a visitor that is let in. -/
structure Admitted (services : Services) (controller : Controller)
    (visitor : Visitor) (caller : Identifier) (cfg : ClientCfg) :
    Prop where
  active : caller ∈ controller.controls
  offered : controller.clientCfg visitor.proxyName = some cfg
  control : visitor.controlId = caller.cells
  proof : signalProof services cfg.sk .visitor visitor.toNotice = some visitor.signalProof

theorem admission_ok (admitted : controller.admission services visitor user caller now = .ok cfg) :
    Admitted services controller visitor caller cfg := by
  rw [admission] at admitted
  split at admitted
  · cases admitted
  next active =>
    split at admitted
    · cases admitted
    next found offered =>
      split at admitted
      · cases admitted
      split at admitted
      · cases admitted
      next request =>
        split at admitted
        · cases admitted
        next proof =>
          split at admitted
          · cases admitted
          cases admitted
          rw [not_or, not_or, not_ne_iff, not_ne_iff] at request
          exact ⟨not_not.mp active, offered, request.2.2, not_ne_iff.mp proof⟩

/-- The message of an owner is dropped, or it is the first of its session. -/
theorem handleClient_cases (client : Client) (transporter : Nat)
    (callerControlId : List UInt8) (now : Int64) :
    controller.handleClient services client transporter callerControlId now = controller ∨
      ∃ caller session handler, identifier? callerControlId = some caller ∧
        caller ∈ controller.controls ∧ session ∈ controller.sessions ∧
        controller.handlers session.ref = some handler ∧
        handler.clientMsg = none ∧
        controller.accepts services client caller session now = true ∧
        controller.handleClient services client transporter callerControlId now =
          { controller with
            handlers := Function.update controller.handlers session.ref
              (some { handler with
                clientMsg := some (client, transporter)
                notified := true }) } := by
  rw [handleClient]
  split
  · exact .inl rfl
  next caller known =>
    split
    · exact .inl rfl
    next active =>
      split
      · exact .inl rfl
      next session found =>
        split
        · exact .inl rfl
        next handler held =>
          split
          next accepted =>
            rw [Bool.and_eq_true, Option.isNone_iff_eq_none] at accepted
            exact .inr ⟨caller, session, handler, known, not_not.mp active,
              List.mem_of_find?_eq_some found, held, accepted.1, accepted.2, rfl⟩
          · exact .inl rfl

/-- A handler does not move, or it makes the move. -/
theorem move_cases (ref : Nat) (action : Move) : controller.move services ref action = controller ∨
      ∃ handler next, controller.handlers ref = some handler ∧
        controller.advance services handler action = some next ∧
        controller.move services ref action =
          { controller.effect handler ref action with
            handlers := Function.update (controller.effect handler ref action).handlers ref
              (some next) } := by
  rw [move]
  split
  · exact .inl rfl
  next handler held =>
    split
    · exact .inl rfl
    next next advanced => exact .inr ⟨handler, next, held, advanced, rfl⟩

theorem effect_cases (handler : Handler) (ref : Nat) (action : Move) :
    (∃ sent, controller.effect handler ref action = { controller with sent := sent }) ∨
      action = .leave ∧ controller.effect handler ref action =
        controller.deleteSessions fun session => session.ref = ref := by
  cases action with
  | respond =>
    rw [effect]
    split
    · exact .inl ⟨_, rfl⟩
    · exact .inl ⟨_, rfl⟩
  | leave => exact .inr ⟨rfl, rfl⟩
  | _ => exact .inl ⟨_, rfl⟩

/-! ## Ownership -/

/-- What holds between the tables, and of sessions with `unused` names. -/
structure Owned (unused : Prop) (controller : Controller) : Prop where
  names : (controller.clientCfgs.map ClientCfg.name).Nodup
  owners : ∀ cfg ∈ controller.clientCfgs, cfg.ownerControl ∈ controller.controls
  visitors : ∀ session ∈ controller.sessions, session.visitorControl ∈ controller.controls
  providers : ∀ session ∈ controller.sessions, session.providerControl ∈ controller.controls
  offered : ∀ session ∈ controller.sessions,
    controller.clientCfg session.visitorMsg.proxyName = some session.clientCfg ∧
      session.clientCfg.ownerControl = session.providerControl
  closed : Accounted controller.closed (controller.clientCfgs.map ClientCfg.ref) controller.cfgCount
  done : unused → Accounted controller.done
    (controller.sessions.map Session.ref) controller.sessionCount

theorem owned_start : Owned True {} := ⟨.nil, nofun, nofun, nofun, nofun, .refl _, fun _ => .refl _⟩

section

variable (owned : Owned unused controller)
include owned

/-- Nothing that the tables are made of changes. -/
theorem Owned.same (handlers : Nat → Option Handler) (sent : List Sent) :
    Owned unused { controller with handlers := handlers, sent := sent } :=
  ⟨owned.names, owned.owners, owned.visitors, owned.providers, owned.offered,
    owned.closed, owned.done⟩

theorem Owned.deleteSessions (leaves : Session → Bool) :
    Owned unused (controller.deleteSessions leaves) where
  names := owned.names
  owners := owned.owners
  visitors session inside := owned.visitors session (List.mem_of_mem_filter inside)
  providers session inside := owned.providers session (List.mem_of_mem_filter inside)
  offered session inside := owned.offered session (List.mem_of_mem_filter inside)
  closed := owned.closed
  done holds := (owned.done holds).delete leaves

theorem Owned.registerControl (controlId : List UInt8) :
    Owned unused (controller.registerControl controlId) := by
  rw [Controller.registerControl]
  split
  · exact owned
  split
  · exact owned
  exact
    { names := owned.names
      owners := fun cfg inside => .tail _ (owned.owners cfg inside)
      visitors := fun session inside => .tail _ (owned.visitors session inside)
      providers := fun session inside => .tail _ (owned.providers session inside)
      offered := owned.offered
      closed := owned.closed
      done := owned.done }

theorem Owned.listenClient (name sk : List UInt8)
    (allowUsers : List (List UInt8)) (ownerControlId : List UInt8) :
    Owned unused (controller.listenClient name sk allowUsers ownerControlId) := by
  rw [Controller.listenClient]
  split
  · exact owned
  split
  · exact owned
  next owner known taken =>
    rw [not_or, not_not, Option.not_isSome_iff_eq_none] at taken
    refine
      { owned with
        names := ?_
        owners := ?_
        offered := ?_
        closed := owned.closed.insert }
    · refine List.nodup_cons.mpr ⟨?_, owned.names⟩
      rintro inside
      obtain ⟨cfg, inside, same⟩ := List.mem_map.mp inside
      have unnamed := List.find?_eq_none.mp taken.2 cfg inside
      exact unnamed (decide_eq_true same)
    · intro cfg inside
      rcases List.mem_cons.mp inside with rfl | inside
      · exact taken.1
      · exact owned.owners cfg inside
    · intro session inside
      obtain ⟨held, owns⟩ := owned.offered session inside
      refine ⟨?_, owns⟩
      rw [clientCfg, List.find?_cons_of_neg, ← clientCfg, held]
      rintro same
      rw [← of_decide_eq_true same, taken.2] at held
      cases held

theorem Owned.closeClient (name ownerControlId : List UInt8) :
    Owned unused (controller.closeClient name ownerControlId) := by
  rw [Controller.closeClient]
  split
  · exact owned
  next cfg found =>
    split
    · exact owned
    -- a session that stays is under another name
    refine
      { names := owned.names.sublist (List.filter_sublist.map _)
        owners := fun cfg inside => owned.owners cfg (List.mem_of_mem_filter inside)
        visitors := fun session inside => owned.visitors session (List.mem_of_mem_filter inside)
        providers := fun session inside => owned.providers session (List.mem_of_mem_filter inside)
        offered := ?_
        closed := owned.closed.delete _
        done := fun holds => (owned.done holds).delete _ }
    intro session inside
    obtain ⟨inside, stays⟩ := List.mem_filter.mp inside
    obtain ⟨held, owns⟩ := owned.offered session inside
    refine ⟨find?_filter_some held ?_, owns⟩
    have named := clientCfg_name held
    have other : session.visitorMsg.proxyName ≠ name := by
      rintro same
      rw [same, found] at held
      cases held
      simp [same, owns] at stays
    change (!decide (session.clientCfg.name = name)) = true
    rw [named, decide_eq_false other]
    rfl

theorem Owned.closeControl (controlId : List UInt8) :
    Owned unused (controller.closeControl controlId) := by
  rw [Controller.closeControl]
  split
  · exact owned
  next id known =>
    have stays : ∀ other : Identifier, other ∈ controller.controls → other.cells ≠ controlId →
        other ∈ controller.controls.filter fun other => other ≠ id := by
      intro other inside differs
      refine List.mem_filter.mpr ⟨inside, decide_eq_true ?_⟩
      rintro rfl
      exact differs (identifier?_cells known)
    have remains : ∀ session : Session, (!(decide (session.providerControl.cells = controlId) ||
          decide (session.visitorControl.cells = controlId))) = true →
        session.providerControl.cells ≠ controlId ∧ session.visitorControl.cells ≠ controlId := by
      intro session apart
      simpa using apart
    exact
      { names := owned.names.sublist (List.filter_sublist.map _)
        owners := fun cfg inside => by
          obtain ⟨inside, apart⟩ := List.mem_filter.mp inside
          refine stays _ (owned.owners cfg inside) ?_
          simpa using apart
        visitors := fun session inside => by
          obtain ⟨inside, apart⟩ := List.mem_filter.mp inside
          exact stays _ (owned.visitors session inside) (remains session apart).2
        providers := fun session inside => by
          obtain ⟨inside, apart⟩ := List.mem_filter.mp inside
          exact stays _ (owned.providers session inside) (remains session apart).1
        offered := fun session inside => by
          obtain ⟨inside, apart⟩ := List.mem_filter.mp inside
          obtain ⟨held, owns⟩ := owned.offered session inside
          refine ⟨find?_filter_some held ?_, owns⟩
          change (!decide (session.clientCfg.ownerControl.cells = controlId)) = true
          rw [owns, decide_eq_false (remains session apart).1]
          rfl
        closed := owned.closed.delete _
        done := fun holds => (owned.done holds).delete _ }

end

/-- The identifier of a new session is not in use. -/
def Fresh (controller : Controller) : Event → Prop
  | .handleVisitor _ _ _ _ (some id) _ =>
    ∀ session ∈ controller.sessions, session.sid ≠ hexEncode id.cells
  | _ => True

theorem Owned.openSession (owned : Owned unused controller)
    (admitted : Admitted services controller visitor caller cfg)
    (transporter : Nat) (id : Identifier) :
    Owned (unused ∧ ∀ session ∈ controller.sessions, session.sid ≠ hexEncode id.cells)
      (controller.openSession visitor transporter caller id cfg) := by
  have owner := owned.owners cfg (List.mem_of_find?_eq_some admitted.offered)
  refine
    { names := owned.names
      owners := owned.owners
      visitors := ?_
      providers := ?_
      offered := ?_
      closed := owned.closed
      done := ?_ }
  · intro session inside
    rcases List.mem_cons.mp inside with rfl | inside
    · exact admitted.active
    · exact owned.visitors session (List.mem_of_mem_filter inside)
  · intro session inside
    rcases List.mem_cons.mp inside with rfl | inside
    · exact owner
    · exact owned.providers session (List.mem_of_mem_filter inside)
  · intro session inside
    rcases List.mem_cons.mp inside with rfl | inside
    · exact ⟨admitted.offered, rfl⟩
    · exact owned.offered session (List.mem_of_mem_filter inside)
  · rintro ⟨holds, fresh⟩
    have all := List.filter_eq_self.mpr fun session inside => decide_eq_true (fresh session inside)
    rw [Controller.openSession]
    rw [all]
    exact (owned.done holds).insert

theorem Owned.weaken {other : Prop} (owned : Owned unused controller)
    (stronger : other → unused) : Owned other controller :=
  { owned with done := fun holds => owned.done (stronger holds) }

theorem Owned.after (owned : Owned unused controller) (event : Event) :
    Owned (unused ∧ controller.Fresh event) (controller.after services event) := by
  have still := owned.weaken (And.left (b := controller.Fresh event))
  cases event with
  | registerControl controlId => exact still.registerControl controlId
  | listenClient name sk allowUsers ownerControlId =>
    exact still.listenClient name sk allowUsers ownerControlId
  | closeClient name ownerControlId => exact still.closeClient name ownerControlId
  | closeControl controlId => exact still.closeControl controlId
  | handleVisitor visitor transporter user callerControlId entropy now =>
    rw [Controller.after]
    rcases handleVisitor_cases visitor transporter user callerControlId entropy now with
      ⟨error, _, equal⟩ | ⟨caller, id, cfg, known, rfl, admitted, equal⟩
    · rw [equal]
      exact still.same _ _
    · rw [equal]
      exact owned.openSession (admission_ok admitted) transporter id
  | handleClient client transporter callerControlId now =>
    rw [Controller.after]
    rcases handleClient_cases client transporter callerControlId now with
      equal | ⟨caller, session, handler, _, _, _, _, _, _, equal⟩
    · rw [equal]
      exact still
    · rw [equal]
      exact still.same _ _
  | move ref action =>
    rw [Controller.after]
    rcases move_cases ref action with
      equal | ⟨handler, next, _, _, equal⟩
    · rw [equal]
      exact still
    · rw [equal]
      rcases effect_cases handler ref action with ⟨sent, effect⟩ | ⟨_, effect⟩
      · rw [effect]
        exact still.same _ _
      · rw [effect]
        exact (still.deleteSessions _).same _ _

/-- The identifiers of all new sessions of a run are not in use. -/
def FreshRun (services : Services) : Controller → List Event → Prop
  | _, [] => True
  | controller, event :: events =>
    controller.Fresh event ∧ FreshRun services (controller.after services event) events

theorem Owned.run (owned : Owned unused controller) (events : List Event) :
    Owned (unused ∧ FreshRun services controller events) (controller.run services events) := by
  induction events generalizing controller unused with
  | nil => exact owned.weaken And.left
  | cons event _ ih =>
    exact (ih (owned.after event)).weaken fun ⟨holds, fresh, rest⟩ => ⟨⟨holds, fresh⟩, rest⟩

theorem run_append (first second : List Event) : controller.run services (first ++ second) =
      (controller.run services first).run services second := List.foldl_append

/-! ## Closing -/

/-- A closing control removes neither what others own nor their sessions. -/
structure Spares (controller : Controller) (former : List UInt8) : Prop where
  cfgs : ∀ cfg ∈ controller.clientCfgs, cfg.ownerControl.cells ≠ former →
    (∀ name, cfg ∈ (controller.closeClient name former).clientCfgs) ∧
      cfg ∈ (controller.closeControl former).clientCfgs
  sessions : ∀ session ∈ controller.sessions, session.providerControl.cells ≠ former →
    (∀ name, session ∈ (controller.closeClient name former).sessions) ∧
      (session.visitorControl.cells ≠ former → session ∈ (controller.closeControl former).sessions)

theorem Owned.spares (owned : Owned unused controller) (former : List UInt8) :
    Spares controller former := by
  refine ⟨fun cfg inside other => ⟨fun name => ?_, ?_⟩,
    fun session inside other => ⟨fun name => ?_, fun apart => ?_⟩⟩
  · rw [Controller.closeClient]
    split
    · exact inside
    next found named =>
      split
      · exact inside
      next owner =>
        refine List.mem_filter.mpr ⟨inside, ?_⟩
        have differs : cfg.name ≠ name := by
          rintro same
          have unique := List.inj_on_of_nodup_map owned.names inside
            (List.mem_of_find?_eq_some named) (same.trans (clientCfg_name named).symm)
          exact other (unique ▸ (not_ne_iff.mp owner).symm)
        simp [differs]
  · rw [Controller.closeControl]
    split
    · exact inside
    refine List.mem_filter.mpr ⟨inside, ?_⟩
    simpa using other
  · rw [Controller.closeClient]
    split
    · exact inside
    next cfg found =>
      split
      · exact inside
      next owner =>
        refine List.mem_filter.mpr ⟨inside, ?_⟩
        rw [not_ne_iff] at owner
        have differs : session.providerControl ≠ cfg.ownerControl := by
          rintro same
          exact other (same ▸ owner.symm)
        simp [differs]
  · rw [Controller.closeControl]
    split
    · exact inside
    refine List.mem_filter.mpr ⟨inside, ?_⟩
    simp [other, apart]

theorem controls_after {event : Event} (absent : id ∉ controller.controls)
    (other : event ≠ .registerControl id.cells) :
    id ∉ (controller.after services event).controls := by
  cases event with
  | registerControl =>
    rw [Controller.after, registerControl]
    split
    · exact absent
    next read known =>
      split
      · exact absent
      rw [List.mem_cons, not_or]
      refine ⟨?_, absent⟩
      rintro rfl
      exact other (by rw [identifier?_cells known])
  | listenClient =>
    rw [Controller.after, listenClient]
    split
    · exact absent
    split
    · exact absent
    · exact absent
  | closeClient =>
    rw [Controller.after, closeClient]
    split
    · exact absent
    split
    · exact absent
    · exact absent
  | closeControl =>
    rw [Controller.after, closeControl]
    split
    · exact absent
    · exact fun inside => absent (List.mem_of_mem_filter inside)
  | handleVisitor visitor transporter user callerControlId entropy now =>
    rw [Controller.after]
    rcases handleVisitor_cases visitor transporter user callerControlId entropy now with
      ⟨error, _, equal⟩ | ⟨caller, id, cfg, _, _, _, equal⟩
    · rw [equal]
      exact absent
    · rw [equal]
      exact absent
  | handleClient client transporter callerControlId now =>
    rw [Controller.after]
    rcases handleClient_cases client transporter callerControlId now with
      equal | ⟨caller, session, handler, _, _, _, _, _, _, equal⟩
    · rw [equal]
      exact absent
    · rw [equal]
      exact absent
  | move ref action =>
    rw [Controller.after]
    rcases move_cases ref action with
      equal | ⟨handler, next, _, _, equal⟩
    · rw [equal]
      exact absent
    · rw [equal]
      rcases effect_cases handler ref action with ⟨sent, effect⟩ | ⟨_, effect⟩
      · rw [effect]
        exact absent
      · rw [effect]
        exact absent

theorem controls_run {events : List Event} (absent : id ∉ controller.controls)
    (other : .registerControl id.cells ∉ events) :
    id ∉ (controller.run services events).controls := by
  induction events generalizing controller with
  | nil => exact absent
  | cons _ _ ih =>
    rw [List.mem_cons, not_or] at other
    exact ih (controls_after absent (Ne.symm other.1)) other.2

theorem controls_closeControl (controller : Controller) {controlId : List UInt8}
    (known : identifier? controlId = some id) :
    id ∉ (controller.closeControl controlId).controls := by
  rw [closeControl, known]
  intro inside
  simpa using (List.mem_filter.mp inside).2

/-- What holds along every run of the controller. -/
structure Ownership (services : Services) (events : List Event) : Prop where
  owned : Owned True (run services {} events)
  cfgsClosedOnce : (run services {} events).closed.Nodup ∧
    ∀ ref, ref ∈ (run services {} events).closed ↔ ref < (run services {} events).cfgCount ∧
        ref ∉ (run services {} events).clientCfgs.map ClientCfg.ref
  sessionsDoneOnce : (run services {} events).done.Nodup ∧
    ∀ ref, ref ∈ (run services {} events).done ↔ ref < (run services {} events).sessionCount ∧
        ref ∉ (run services {} events).sessions.map Session.ref
  spares : ∀ former, Spares (run services {} events) former
  revoked : ∀ before controlId id later, events = before ++ .closeControl controlId :: later →
    identifier? controlId = some id →
    .registerControl controlId ∉ later →
    (∀ cfg ∈ (run services {} events).clientCfgs, cfg.ownerControl ≠ id) ∧
      ∀ session ∈ (run services {} events).sessions,
        session.visitorControl ≠ id ∧ session.providerControl ≠ id

/-- A message of the control `caller` to the proxy `p`. -/
def sampleVisitor (caller : Identifier) : Visitor where
  transactionId := [0x74]
  proxyName := [0x70]
  timestamp := 1
  controlId := caller.cells
  nonce := List.replicate 32 1
  spki := List.replicate 32 1
  certificate := [1]
  signalProof := List.replicate 32 1
  protocol := ascii "quic"

end Controller

end EspFrp.NatHole
