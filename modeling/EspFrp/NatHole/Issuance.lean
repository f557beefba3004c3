import EspFrp.Binding.Canonical
import EspFrp.NatHole.Ownership

/-!
# Issuing manifests

The manifest of a session is made from the message of the visitor that opened
it and from the one message of the owner that was accepted; both were
submitted by the controls they name, while these were registered, and both
were verified under the secret of the configuration of the session.
-/

namespace EspFrp.NatHole

open Binding Library

/-! ## Texts of identifiers -/

theorem hexValue_hexDigit : ∀ value < 16, hexValue (hexDigit value) = some value := by
  decide

theorem hexDecode_hexEncode (bytes : List UInt8) : hexDecode (hexEncode bytes) = some bytes := by
  induction bytes with
  | nil => rfl
  | cons byte bytes ih =>
    have bound := byte.toNat_lt
    change hexDecode (hexDigit (byte.toNat / 16) ::
      hexDigit (byte.toNat % 16) :: hexEncode bytes) = _
    rw [hexDecode, hexValue_hexDigit _ (by omega), hexValue_hexDigit _ (by omega), ih]
    change some (UInt8.ofNat (16 * (byte.toNat / 16) + byte.toNat % 16) :: bytes) = _
    rw [Nat.div_add_mod, UInt8.ofNat_toNat]

theorem identifier?_length {bytes : List UInt8} {id : Identifier}
    (read : identifier? bytes = some id) : bytes.length = 32 := by
  rw [← identifier?_cells read]
  exact id.cells_length

theorem copyField_all (length : bytes.length = 32) : (copyField bytes 0).cells = bytes := by
  rw [copyField_cells (by rw [length]), List.drop_zero,
    List.take_of_length_le (Nat.le_of_eq length)]

variable {ref transporter : Nat}

/-- A message that is verified has a nonce and a pin of the right size. -/
theorem signalProof_lengths (verified : signalProof services sk role notice = some proof) :
    notice.nonce.length = 32 ∧ notice.spki.length = 32 := by
  rw [signalProof] at verified
  split at verified
  next nonce spki => exact ⟨identifier?_length nonce, identifier?_length spki⟩
  · cases verified

namespace Controller

variable {controller : Controller}

/-! ## Where messages come from -/

/-- An event of a run that met a controller of some kind. -/
def Met (services : Services) (events : List Event) (event : Event)
    (holds : Controller → Prop) : Prop :=
  ∃ before, before ++ [event] <+: events ∧ holds (run services {} before)

/-- The message of a visitor was submitted and verified. -/
structure Vouched (services : Services) (events : List Event) (session : Session) : Prop where
  owner : session.clientCfg.ownerControl = session.providerControl
  submitted : ∃ user callerControlId id now,
    identifier? callerControlId = some session.visitorControl ∧ session.sid = hexEncode id.cells ∧
      Met services events (.handleVisitor session.visitorMsg session.visitorTransporter user
          callerControlId (some id) now)
        fun controller =>
          Admitted services controller session.visitorMsg session.visitorControl session.clientCfg

/-- The message of an owner was submitted and verified. -/
structure Answered (services : Services) (events : List Event)
    (session : Session) (client : Client) (transporter : Nat) : Prop where
  proxy : client.proxyName = session.visitorMsg.proxyName
  control : client.controlId = session.providerControl.cells
  proof : signalProof services session.clientCfg.sk .provider
    client.toNotice = some client.signalProof
  submitted : ∃ callerControlId now, identifier? callerControlId = some session.providerControl ∧
      Met services events (.handleClient client transporter callerControlId now) fun controller =>
          session.providerControl ∈ controller.controls ∧
            controller.clientCfg client.proxyName = some session.clientCfg

/-- A visitor was answered at once. -/
structure Replied (services : Services) (events : List Event) (sent : Sent) : Prop where
  response : sent.response = genNatHoleResponse sent.response.transactionId sent.response.error
  submitted : ∃ visitor user callerControlId entropy now,
    .handleVisitor visitor sent.transporter user callerControlId entropy now ∈ events ∧
      sent.response.transactionId = visitor.transactionId ∧
      Reason services visitor user sent.response.error

theorem Replied.later {sent : Sent} (replied : Replied services events sent) (next : Event) :
    Replied services (events ++ [next]) sent := by
  obtain ⟨response, visitor, user, caller, entropy, now, inside, rest⟩ := replied
  exact ⟨response, visitor, user, caller, entropy, now, List.mem_append_left _ inside, rest⟩

theorem Met.mem (met : Met services events event holds) : event ∈ events := by
  obtain ⟨_, inside, _⟩ := met
  exact inside.subset (List.mem_append_right _ (.head _))

theorem Met.later {holds : Controller → Prop} (met : Met services events event holds)
    (next : Event) : Met services (events ++ [next]) event holds := by
  obtain ⟨before, inside, holds⟩ := met
  exact ⟨before, inside.trans (List.prefix_append _ _), holds⟩

theorem Vouched.later (vouched : Vouched services events session)
    (next : Event) : Vouched services (events ++ [next]) session := by
  obtain ⟨owner, user, caller, id, now, known, sid, met⟩ := vouched
  exact ⟨owner, user, caller, id, now, known, sid, met.later next⟩

theorem Answered.later (answered : Answered services events session client transporter)
    (next : Event) : Answered services (events ++ [next]) session client transporter := by
  obtain ⟨caller, now, known, met⟩ := answered.submitted
  exact { answered with submitted := ⟨caller, now, known, met.later next⟩ }

theorem accepts_owned (owned : Owned unused controller) (inside : session ∈ controller.sessions)
    (accepted : controller.accepts services client caller session now = true) :
    caller = session.providerControl ∧
      controller.clientCfg client.proxyName = some session.clientCfg ∧
      client.proxyName = session.visitorMsg.proxyName ∧
      client.controlId = session.providerControl.cells ∧
      signalProof services session.clientCfg.sk .provider
        client.toNotice = some client.signalProof := by
  rw [accepts] at accepted
  split at accepted
  · cases accepted
  next cfg found =>
    simp only [Bool.and_eq_true, decide_eq_true_eq] at accepted
    obtain ⟨⟨⟨⟨⟨⟨proxy, own⟩, control⟩, _⟩, _⟩, proof⟩, _⟩ := accepted
    -- the configuration is the one that the session was opened with
    have held := (owned.offered session inside).1
    rw [← proxy, found, Option.some.injEq] at held
    rw [held] at proof found
    exact ⟨own, found, proxy, own ▸ control, proof⟩

/-! ## Handlers -/

/-- The handler has made its answers. -/
def settled : Phase → Bool
  | .offering | .waiting | .checking | .analysing => false
  | _ => true

/-- What a handler keeps: its session, its message and its answers. -/
structure Extends (handler next : Handler) : Prop where
  session : next.session = handler.session
  clientMsg : ∀ client, handler.clientMsg = some client → next.clientMsg = some client
  responses : ∀ responses, handler.responses = some responses → next.responses = some responses

theorem Extends.refl (handler : Handler) : Extends handler handler :=
  ⟨rfl, fun _ same => same, fun _ same => same⟩

theorem Extends.trans (left : Extends first second)
    (right : Extends second third) : Extends first third :=
  ⟨right.session.trans left.session,
    fun client same => right.clientMsg client (left.clientMsg client same),
    fun responses same => right.responses responses (left.responses responses same)⟩

theorem Extends.answer (kept : Extends handler next) {answered}
    (same : answer handler role = some answered) : answer next role = some answered := by
  cases made : handler.responses with
  | none => cases role <;> · rw [Controller.answer, made] at same; cases same
  | some responses =>
    have later := kept.responses responses made
    cases role with
    | visitor =>
      rw [Controller.answer, made] at same
      rw [Controller.answer, later, kept.session]
      exact same
    | provider =>
      cases accepted : handler.clientMsg with
      | none => rw [Controller.answer, made, accepted] at same; cases same
      | some client =>
        rw [Controller.answer, made, accepted] at same
        rw [Controller.answer, later, kept.clientMsg client accepted]
        exact same

/-- What is known of a handler. -/
structure Sound (services : Services) (events : List Event) (ref : Nat)
    (handler : Handler) : Prop where
  ref : handler.session.ref = ref
  vouched : Vouched services events handler.session
  answered : ∀ client transporter, handler.clientMsg = some (client, transporter) →
    Answered services events handler.session client transporter
  responses : ∀ responses, handler.responses = some responses → settled handler.phase = true ∧
      ∃ client transporter now, handler.clientMsg = some (client, transporter) ∧
          responses = responsesOf services handler.session client now

theorem Sound.later (sound : Sound services events ref handler) (next : Event) :
    Sound services (events ++ [next]) ref handler :=
  { sound with
    vouched := sound.vouched.later next
    answered := fun client transporter same => (sound.answered client transporter same).later next }

/-- A move keeps the answers, or makes them. -/
theorem advance_cases (advanced : controller.advance services handler action = some next) :
    next.session = handler.session ∧ next.clientMsg = handler.clientMsg ∧
      (next.responses = handler.responses ∧
          (settled handler.phase = true → settled next.phase = true) ∨
        settled handler.phase = false ∧ settled next.phase = true ∧ ∃ client transporter now,
            handler.clientMsg = some (client, transporter) ∧ next.responses = some
                (responsesOf services handler.session client now)) := by
  cases action with
  | analyse now =>
    rw [advance] at advanced
    split at advanced
    next analysing =>
      split at advanced
      · cases advanced
        exact ⟨rfl, rfl, .inl ⟨rfl, fun _ => rfl⟩⟩
      next client transporter accepted =>
        cases advanced
        refine ⟨rfl, rfl, .inr ⟨?_, rfl, client, transporter, now, accepted, rfl⟩⟩
        rw [analysing]
        rfl
    · cases advanced
  | respond =>
    dsimp only [advance] at advanced
    split at advanced
    · cases advanced
      refine ⟨rfl, rfl, .inl ⟨rfl, fun _ => ?_⟩⟩
      split <;> rfl
    · cases advanced
      refine ⟨rfl, rfl, .inl ⟨rfl, fun _ => ?_⟩⟩
      split <;> rfl
    · cases advanced
  | _ =>
    simp only [advance, Option.ite_none_right_eq_some, Option.some.injEq] at advanced
    obtain ⟨guard, rfl⟩ := advanced
    refine ⟨rfl, rfl, .inl ⟨rfl, fun past => ?_⟩⟩
    revert past
    first
      | exact fun _ => rfl
      | rw [guard]; exact nofun
      | rw [guard.1]; exact nofun

theorem Sound.advance (sound : Sound services events ref handler)
    (advanced : controller.advance services handler action = some next) :
    Sound services events ref next ∧ Extends handler next := by
  obtain ⟨session, clientMsg, made⟩ := advance_cases advanced
  rcases made with ⟨same, still⟩ | ⟨early, late, client, transporter, now, accepted, made⟩
  · refine ⟨⟨session ▸ sound.ref, session ▸ sound.vouched, ?_, ?_⟩, session,
      fun client held => clientMsg ▸ held, fun responses held => same ▸ held⟩
    · rw [session, clientMsg]
      exact sound.answered
    · rw [session, clientMsg, same]
      intro responses held
      obtain ⟨past, rest⟩ := sound.responses responses held
      exact ⟨still past, rest⟩
  · refine ⟨⟨session ▸ sound.ref, session ▸ sound.vouched, ?_, ?_⟩,
      session, fun client held => clientMsg ▸ held, ?_⟩
    · rw [session, clientMsg]
      exact sound.answered
    · rw [session, clientMsg, made]
      rintro responses held
      cases held
      exact ⟨late, client, transporter, now, accepted, rfl⟩
    · intro responses held
      rw [(sound.responses responses held).1] at early
      cases early

/-! ## Runs -/

/-- What holds of all handlers and of everything that was sent. -/
structure Issued (services : Services) (events : List Event) (controller : Controller) : Prop where
  owned : ∃ unused, Owned unused controller
  numbered : ∀ ref, controller.sessionCount ≤ ref → controller.handlers ref = none
  table : ∀ session ∈ controller.sessions, ∃ handler,
    controller.handlers session.ref = some handler ∧ handler.session = session
  sound : ∀ ref handler, controller.handlers ref = some handler → Sound services events ref handler
  sent : ∀ sent ∈ controller.sent,
    match sent.issuer with
    | none => Replied services events sent
    | some (ref, role) => ∃ handler, controller.handlers ref = some handler ∧
          answer handler role = some (sent.transporter, sent.response)

theorem issued_start : Issued services [] {} :=
  ⟨⟨_, owned_start⟩, fun _ _ => rfl, nofun, nofun, nofun⟩

/-- Every handler is there with what it keeps. -/
def Extended (controller later : Controller) : Prop :=
  ∀ ref handler, controller.handlers ref = some handler →
    ∃ next, later.handlers ref = some next ∧ Extends handler next

/-- What an event of a run preserves. -/
structure Stepped (services : Services) (events : List Event)
    (event : Event) (controller later : Controller) : Prop where
  issued : Issued services (events ++ [event]) later
  extended : Extended controller later

/-- A step of the controller, as far as handlers and answers go. -/
theorem Issued.next (issued : Issued services events controller)
    (owned : ∃ unused, Owned unused later)
    (numbered : ∀ ref, later.sessionCount ≤ ref → later.handlers ref = none)
    (table : ∀ session ∈ later.sessions, session ∈ controller.sessions ∨
      ∃ handler, later.handlers session.ref = some handler ∧ handler.session = session)
    (sound : ∀ ref handler, later.handlers ref = some handler →
      Sound services (events ++ [event]) ref handler)
    (extended : Extended controller later)
    (sent : ∀ sent ∈ later.sent, sent ∈ controller.sent ∨
      match sent.issuer with
      | none => Replied services (events ++ [event]) sent
      | some (ref, role) => ∃ handler, controller.handlers ref = some handler ∧
            answer handler role = some (sent.transporter, sent.response)) :
    Stepped services events event controller later := by
  refine ⟨⟨owned, numbered, fun session inside => ?_, sound, fun message inside => ?_⟩, extended⟩
  · rcases table session inside with old | new
    · obtain ⟨handler, held, same⟩ := issued.table session old
      obtain ⟨next, held, kept⟩ := extended _ handler held
      exact ⟨next, held, kept.session.trans same⟩
    · exact new
  have old := issued.sent message
  have new := sent message inside
  revert old new
  cases message.issuer with
  | none => exact fun old new => new.elim (fun before => (old before).later _) id
  | some =>
    intro old new
    obtain ⟨handler, held, answered⟩ := new.elim old id
    obtain ⟨next, held, kept⟩ := extended _ handler held
    exact ⟨next, held, kept.answer answered⟩

/-- The handlers stay as they are. -/
theorem Issued.same (issued : Issued services events controller)
    (owned : ∃ unused, Owned unused later)
    (handlers : later.handlers = controller.handlers)
    (count : later.sessionCount = controller.sessionCount)
    (sessions : ∀ session ∈ later.sessions, session ∈ controller.sessions)
    (sent : ∀ sent ∈ later.sent, sent ∈ controller.sent ∨
      sent.issuer = none ∧ Replied services (events ++ [event]) sent) :
    Stepped services events event controller later := by
  refine issued.next owned ?_ ?_ ?_ ?_ ?_
  · rw [handlers, count]
    exact issued.numbered
  · exact fun session inside => .inl (sessions session inside)
  · rw [handlers]
    exact fun ref handler held => (issued.sound ref handler held).later _
  · intro ref handler held
    exact ⟨handler, handlers ▸ held, .refl handler⟩
  · intro message inside
    refine (sent message inside).imp id ?_
    rintro ⟨anonymous, replied⟩
    rw [anonymous]
    exact replied

variable {later : Controller}

/-- One handler is replaced by one that keeps what it has. -/
theorem Issued.update {next : Handler}
    (issued : Issued services events controller)
    (owned : ∃ unused, Owned unused later)
    (held : controller.handlers ref = some handler) (handlers : later.handlers =
      Function.update controller.handlers ref (some next))
    (sound : Sound services (events ++ [event]) ref next)
    (kept : Extends handler next)
    (count : later.sessionCount = controller.sessionCount)
    (sessions : ∀ session ∈ later.sessions, session ∈ controller.sessions)
    (sent : ∀ sent ∈ later.sent, sent ∈ controller.sent ∨ ∃ role, sent.issuer = some (ref, role) ∧
        answer handler role = some (sent.transporter, sent.response)) :
    Stepped services events event controller later := by
  have here : later.handlers ref = some next := by rw [handlers, Function.update_self]
  have there : ∀ other, other ≠ ref →
      later.handlers other = controller.handlers other := fun other apart => by
    rw [handlers, Function.update_of_ne apart]
  refine issued.next owned ?_ ?_ ?_ ?_ ?_
  · intro other beyond
    rw [count] at beyond
    rw [there other, issued.numbered other beyond]
    rintro rfl
    rw [issued.numbered other beyond] at held
    cases held
  · exact fun session inside => .inl (sessions session inside)
  · intro other found present
    by_cases own : other = ref
    · subst own
      rw [here] at present
      cases present
      exact sound
    · rw [there _ own] at present
      exact (issued.sound other found present).later _
  · intro other found present
    by_cases own : other = ref
    · subst own
      rw [held] at present
      cases present
      exact ⟨next, here, kept⟩
    · exact ⟨found, (there _ own).trans present, .refl found⟩
  · intro message inside
    refine (sent message inside).imp id ?_
    rintro ⟨role, issuer, answered⟩
    rw [issuer]
    exact ⟨handler, held, answered⟩

theorem Issued.openSession {visitor : Visitor} {user callerControlId : List UInt8}
    {caller id : Identifier} (issued : Issued services events (run services {} events))
    (known : identifier? callerControlId = some caller)
    (admitted : Admitted services (run services {} events) visitor caller cfg) :
    Stepped services events (.handleVisitor visitor transporter user callerControlId (some id) now)
      (run services {} events)
      ((run services {} events).openSession visitor transporter caller id cfg) := by
  obtain ⟨_, owned⟩ := issued.owned
  have none := issued.numbered _ (Nat.le_refl _)
  refine issued.next ⟨_, owned.openSession admitted transporter id⟩ ?_ ?_ ?_ ?_ ?_
  · intro ref beyond
    change Function.update _ _ _ ref = _
    rw [Function.update_of_ne]
    · exact issued.numbered ref (Nat.le_of_succ_le beyond)
    · rintro rfl
      exact Nat.not_succ_le_self _ beyond
  · intro session inside
    rcases List.mem_cons.mp inside with rfl | inside
    · exact .inr ⟨_, Function.update_self .., rfl⟩
    · exact .inl (List.mem_of_mem_filter inside)
  · intro ref handler present
    by_cases new : ref = (run services {} events).sessionCount
    · subst new
      replace present := (Function.update_self ..).symm.trans present
      cases present
      exact
        { ref := rfl
          vouched := ⟨rfl, user, callerControlId, id, now, known, rfl,
            events, List.prefix_rfl, admitted⟩
          answered := nofun
          responses := nofun }
    · replace present := (Function.update_of_ne new ..).symm.trans present
      exact (issued.sound ref handler present).later _
  · intro ref handler present
    refine ⟨handler, ?_, .refl handler⟩
    change Function.update _ _ _ ref = _
    rw [Function.update_of_ne]
    · exact present
    · rintro rfl
      rw [none] at present
      cases present
  · exact fun message inside => .inl inside

/-- Only what the tables are made of changes. -/
structure Kept (controller later : Controller) : Prop where
  handlers : later.handlers = controller.handlers
  count : later.sessionCount = controller.sessionCount
  sessions : ∀ session ∈ later.sessions, session ∈ controller.sessions
  sent : later.sent = controller.sent

theorem Kept.refl (controller : Controller) : Kept controller controller :=
  ⟨rfl, rfl, fun _ => id, rfl⟩

theorem kept_registerControl (controlId : List UInt8) :
    Kept controller (controller.registerControl controlId) := by
  rw [registerControl]
  split
  · exact .refl controller
  split
  · exact .refl controller
  · exact ⟨rfl, rfl, fun _ => id, rfl⟩

theorem kept_listenClient (name sk : List UInt8)
    (allowUsers : List (List UInt8)) (ownerControlId : List UInt8) :
    Kept controller (controller.listenClient name sk allowUsers ownerControlId) := by
  rw [listenClient]
  split
  · exact .refl controller
  split
  · exact .refl controller
  · exact ⟨rfl, rfl, fun _ => id, rfl⟩

theorem kept_closeClient (name ownerControlId : List UInt8) :
    Kept controller (controller.closeClient name ownerControlId) := by
  rw [closeClient]
  split
  · exact .refl controller
  split
  · exact .refl controller
  · exact ⟨rfl, rfl, fun _ => List.mem_of_mem_filter, rfl⟩

theorem kept_closeControl (controlId : List UInt8) :
    Kept controller (controller.closeControl controlId) := by
  rw [closeControl]
  split
  · exact .refl controller
  · exact ⟨rfl, rfl, fun _ => List.mem_of_mem_filter, rfl⟩

theorem Issued.kept (issued : Issued services events controller)
    (owned : ∃ unused, Owned unused later) (kept : Kept controller later) :
    Stepped services events event controller later :=
  issued.same owned kept.handlers kept.count kept.sessions fun _ inside => .inl (kept.sent ▸ inside)

theorem Issued.handleClient (issued : Issued services events (run services {} events)) :
    Stepped services events (.handleClient client transporter callerControlId now)
      (run services {} events)
      ((run services {} events).handleClient services client transporter callerControlId now) := by
  obtain ⟨_, owned⟩ := issued.owned
  rcases handleClient_cases client transporter callerControlId now with
    equal | ⟨caller, session, handler, known, active, inside, held, unset, accepted, equal⟩
  · rw [equal]
    exact issued.kept issued.owned (.refl _)
  rw [equal]
  obtain ⟨rfl, found, proxy, control, proof⟩ := accepts_owned owned inside accepted
  obtain ⟨_, same, own⟩ := issued.table session inside
  rw [held] at same
  cases same
  have sound := issued.sound _ handler held
  have fresh : handler.responses = none := by
    cases made : handler.responses with
    | none => rfl
    | some responses =>
      obtain ⟨_, _, _, _, set, _⟩ := sound.responses responses made
      rw [unset] at set
      cases set
  refine issued.update ⟨_, owned.same _ _⟩ held rfl
    { ref := sound.ref
      vouched := sound.vouched.later _
      answered := ?_
      responses := ?_ }
    ⟨rfl, fun client set => ?_, fun responses made => ?_⟩ rfl
    (fun _ => id) fun _ => .inl
  · rintro client transporter set
    cases set
    rw [own]
    exact
      { proxy := proxy
        control := control
        proof := proof
        submitted := ⟨callerControlId, now, known, events, List.prefix_rfl, active, found⟩ }
  · intro responses made
    rw [fresh] at made
    cases made
  · rw [unset] at set
    cases set
  · rw [fresh] at made
    cases made

theorem Issued.move (issued : Issued services events controller)
    (owned : ∃ unused, Owned unused (controller.move services ref action)) :
    Stepped services events (.move ref action) controller
      (controller.move services ref action) := by
  rcases move_cases ref action with
    equal | ⟨handler, next, held, advanced, equal⟩
  · rw [equal]
    exact issued.kept issued.owned (.refl _)
  rw [equal] at owned ⊢
  obtain ⟨sound, kept⟩ := (issued.sound ref handler held).advance advanced
  have frame : ∀ sent, controller.effect handler ref action = { controller with sent := sent } →
      (∀ message ∈ sent, message ∈ controller.sent ∨ ∃ role, message.issuer = some (ref, role) ∧
          answer handler role = some (message.transporter, message.response)) →
      Stepped services events (.move ref action) controller
        { controller.effect handler ref action with
          handlers := Function.update (controller.effect handler ref action).handlers ref
            (some next) } := by
    intro sent same messages
    rw [same] at owned ⊢
    exact issued.update owned held rfl (sound.later _) kept rfl (fun _ => id) messages
  cases action with
  | respond role =>
    cases answered : answer handler role with
    | none =>
      refine frame controller.sent ?_ fun _ => .inl
      rw [effect, answered]
    | some =>
      refine frame _ (by rw [effect, answered]; rfl)
        fun message inside => (List.mem_append.mp inside).imp id fun new => ?_
      cases List.mem_singleton.mp new
      exact ⟨role, rfl, answered⟩
  | leave =>
    exact issued.update owned held rfl (sound.later _) kept rfl
      (fun _ => List.mem_of_mem_filter) fun _ => .inl
  | _ => exact frame controller.sent rfl fun _ => .inl

theorem Issued.after (issued : Issued services events (run services {} events)) (event : Event) :
    Stepped services events event (run services {} events)
      ((run services {} events).after services event) := by
  obtain ⟨unused, owned⟩ := issued.owned
  have owned := (⟨_, owned.after event⟩ : ∃ unused, Owned unused
    ((run services {} events).after services event))
  cases event with
  | registerControl controlId => exact issued.kept owned (kept_registerControl controlId)
  | listenClient name sk allowUsers ownerControlId =>
    exact issued.kept owned (kept_listenClient name sk allowUsers ownerControlId)
  | closeClient name ownerControlId =>
    exact issued.kept owned (kept_closeClient name ownerControlId)
  | closeControl controlId => exact issued.kept owned (kept_closeControl controlId)
  | handleVisitor visitor transporter user callerControlId entropy now =>
    rw [Controller.after] at owned ⊢
    rcases handleVisitor_cases visitor transporter user callerControlId entropy now with
      ⟨error, reason, equal⟩ | ⟨caller, id, cfg, known, rfl, admitted, equal⟩
    · rw [equal] at owned ⊢
      refine issued.same owned rfl rfl (fun _ => id) fun message inside =>
        (List.mem_append.mp inside).imp id fun new => ?_
      cases List.mem_singleton.mp new
      exact ⟨rfl, rfl, visitor, user, callerControlId, entropy, now,
        List.mem_append_right _ (.head _), rfl, reason⟩
    · rw [equal]
      exact issued.openSession known (admission_ok admitted)
  | handleClient => exact issued.handleClient
  | move => exact issued.move owned

theorem issued_run (services : Services) (events : List Event) :
    Issued services events (run services {} events) := by
  induction events using List.reverseRecOn with
  | nil => exact issued_start
  | append_singleton _ event ih =>
    rw [run_append]
    exact (ih.after event).issued

theorem extended_run (services : Services) {before events : List Event}
    (earlier : before <+: events) : Extended (run services {} before) (run services {} events) := by
  obtain ⟨rest, rfl⟩ := earlier
  induction rest using List.reverseRecOn with
  | nil =>
    rw [List.append_nil]
    exact fun ref handler held => ⟨handler, held, .refl handler⟩
  | append_singleton _ event ih =>
    rw [← List.append_assoc, run_append]
    intro ref handler held
    obtain ⟨middle, held, first⟩ := ih ref handler held
    obtain ⟨last, held, second⟩ := ((issued_run services _).after event).extended ref middle held
    exact ⟨last, held, first.trans second⟩

/-! ## Manifests -/

/-- The manifest on the wire is that of the two messages. -/
def Names (session : Session) (client : Client) (wire : List UInt8) :
    Prop :=
  ∃ id now,
    let manifest := manifestOf session client id now
    session.sid = hexEncode id.cells ∧ Server.encode manifest = some wire ∧
      manifest.visitorNonce.cells = session.visitorMsg.nonce ∧
      manifest.visitorSpki.cells = session.visitorMsg.spki ∧
      manifest.providerNonce.cells = client.nonce ∧
      manifest.providerSpki.cells = client.spki

theorem analysis_ok {now : UInt64} (vouched : Vouched services events session)
    (answered : Answered services events session client transporter)
    (analysed : analysis services session client now = .ok responses) :
    Names session client responses.1.manifest ∧ responses.1.certificate = client.certificate ∧
      responses.2.certificate = session.visitorMsg.certificate := by
  obtain ⟨_, _, _, id, _, _, sid, _, _, admitted⟩ := vouched
  obtain ⟨nonce, spki⟩ := signalProof_lengths admitted.proof
  obtain ⟨clientNonce, clientSpki⟩ := signalProof_lengths answered.proof
  have whole := Block.ext (copyField_all id.cells_length)
  rw [analysis, sid, hexDecode_hexEncode] at analysed
  dsimp only at analysed
  rw [whole, if_neg (not_ne_iff.mpr id.cells_length)] at analysed
  split at analysed
  · cases analysed
  split at analysed
  · cases analysed
  split at analysed
  · cases analysed
  next wire encoded =>
    cases analysed
    exact ⟨⟨id, now, sid, encoded, copyField_all nonce, copyField_all spki,
      copyField_all clientNonce, copyField_all clientSpki⟩, rfl, rfl⟩

theorem responsesOf_same (services : Services) (session : Session)
    (client : Client) (now : UInt64) :
    (responsesOf services session client now).2.manifest =
      (responsesOf services session client now).1.manifest := by
  rw [responsesOf]
  split
  next responses analysed =>
    rw [analysis] at analysed
    repeat' split at analysed
    all_goals cases analysed
    rfl
  · rfl

/-- An answer of a session is one of the two that its handler has made. -/
theorem Issued.made (issued : Issued services events controller) {sent : Sent}
    (inside : sent ∈ controller.sent)
    (issuer : sent.issuer = some (ref, role)) :
    ∃ handler client transporter now,
      let responses := responsesOf services handler.session client now
      controller.handlers ref = some handler ∧ handler.clientMsg = some (client, transporter) ∧
        handler.responses = some responses ∧
        sent.response.manifest = responses.1.manifest ∧
        match role with
        | .visitor =>
          sent.transporter = handler.session.visitorTransporter ∧ sent.response = responses.1
        | .provider => sent.transporter = transporter ∧ sent.response = responses.2 := by
  have known := issued.sent sent inside
  rw [issuer] at known
  obtain ⟨handler, held, answered⟩ := known
  cases given : handler.responses with
  | none => cases role <;> · rw [answer, given] at answered; cases answered
  | some responses =>
    obtain ⟨_, client, transporter, now, accepted, rfl⟩ :=
      (issued.sound ref handler held).responses responses given
    refine ⟨handler, client, transporter, now, held, accepted, given, ?_⟩
    cases role with
    | visitor =>
      rw [answer, given] at answered
      have reply := Prod.mk.inj (Option.some.inj answered)
      exact ⟨by rw [reply.2], reply.1.symm, reply.2.symm⟩
    | provider =>
      rw [answer, given, accepted] at answered
      have reply := Prod.mk.inj (Option.some.inj answered)
      refine ⟨?_, reply.1.symm, reply.2.symm⟩
      rw [← reply.2, responsesOf_same]

/-- What was sent with a manifest, and to whom. -/
structure Bound (services : Services) (events : List Event) (sent : Sent)
    (ref : Nat) (role : Role) (session : Session) (client : Client)
    (transporter : Nat) : Prop where
  issuer : sent.issuer = some (ref, role)
  vouched : Vouched services events session
  answered : Answered services events session client transporter
  names : Names session client sent.response.manifest
  peer : match role with
    | .visitor => sent.transporter = session.visitorTransporter ∧
        sent.response.certificate = client.certificate
    | .provider => sent.transporter = transporter ∧
        sent.response.certificate = session.visitorMsg.certificate

/-- Manifests are bound to the two controls of their session.

In every run an answer that carries a manifest belongs to a session, and the
manifest names the controls, the nonces and the keys of the two messages of
that session; the message of the visitor was submitted by the control that it
names while that was registered, and verified under the secret of the proxy;
the message of the provider likewise by the owner of that proxy; it goes to
the transport that the message of its role came with and carries the
certificate of the other.  All answers of a session carry the same manifest,
and a session keeps the first message of a provider that it accepts. -/
theorem manifests_bound (services : Services) (events : List Event) :
    (∀ sent ∈ (run services {} events).sent, sent.response.manifest ≠ [] →
      ∃ ref role handler client transporter, (run services {} events).handlers ref = some handler ∧
          handler.clientMsg = some (client, transporter) ∧
          Bound services events sent ref role handler.session client transporter) ∧
      (∀ first ∈ (run services {} events).sent,
        ∀ second ∈ (run services {} events).sent, ∀ ref firstRole secondRole,
        first.issuer = some (ref, firstRole) →
        second.issuer = some (ref, secondRole) →
        first.response.manifest = second.response.manifest) ∧
      ∀ before, before <+: events → ∀ ref handler,
        (run services {} before).handlers ref = some handler →
        ∃ later, (run services {} events).handlers ref = some later ∧
          later.session = handler.session ∧
          ∀ client, handler.clientMsg = some client → later.clientMsg = some client := by
  have issued := issued_run services events
  refine ⟨?_, ?_, ?_⟩
  · intro sent inside carries
    cases issuer : sent.issuer with
    | none =>
      have replied := issued.sent sent inside
      rw [issuer] at replied
      rw [replied.response] at carries
      exact absurd rfl carries
    | some pair =>
      obtain ⟨ref, role⟩ := pair
      obtain ⟨handler, client, transporter, now, held, accepted, _,
        manifest, chosen⟩ := issued.made inside issuer
      have sound := issued.sound ref handler held
      have owner := sound.answered client transporter accepted
      cases analysed : analysis services handler.session client now with
      | error =>
        rw [responsesOf, analysed] at manifest
        exact absurd manifest carries
      | ok =>
        rw [responsesOf, analysed] at manifest chosen
        obtain ⟨names, clientCertificate, visitorCertificate⟩ :=
          analysis_ok sound.vouched owner analysed
        refine ⟨ref, role, handler, client, transporter, held, accepted,
          ⟨issuer, sound.vouched, owner, manifest ▸ names, ?_⟩⟩
        cases role with
        | visitor => exact ⟨chosen.1, chosen.2 ▸ clientCertificate⟩
        | provider => exact ⟨chosen.1, chosen.2 ▸ visitorCertificate⟩
  · intro first firstIn second secondIn ref firstRole secondRole one two
    obtain ⟨_, _, _, _, held, _, given, manifest, _⟩ := issued.made firstIn one
    obtain ⟨_, _, _, _, otherHeld, _, otherGiven, otherManifest, _⟩ := issued.made secondIn two
    rw [held, Option.some.injEq] at otherHeld
    subst otherHeld
    rw [given, Option.some.injEq] at otherGiven
    rw [manifest, otherManifest, otherGiven]
  · intro before earlier ref handler held
    obtain ⟨later, held, kept⟩ := extended_run services earlier ref handler held
    exact ⟨later, held, kept.session, kept.clientMsg⟩

/-- Manifests are readable by the clients.

In every run the client reads each manifest that the server sends, as that of
the session it was issued for, in exactly the minute after it was issued; an
answer that belongs to no session carries none. -/
theorem manifests_readable (services : Services) (events : List Event) :
    (∀ sent ∈ (run services {} events).sent, sent.response.manifest ≠ [] →
      ∃ ref role handler client transporter id issued, sent.issuer = some (ref, role) ∧
        (run services {} events).handlers ref = some handler ∧
        handler.clientMsg = some (client, transporter) ∧
        handler.session.sid = hexEncode id.cells ∧
        ∀ now manifest, decode sent.response.manifest now = .ok manifest ↔
          manifest = manifestOf handler.session client id issued ∧
            issued ≤ now ∧ now < issued + 60) ∧
      ∀ sent ∈ (run services {} events).sent, sent.issuer = none → sent.response.manifest = [] := by
  have issued := issued_run services events
  have foreign : ∀ sent ∈ (run services {} events).sent, sent.issuer = none →
      sent.response.manifest = [] := by
    intro sent inside none
    have replied := issued.sent sent inside
    rw [none] at replied
    rw [replied.response]
    rfl
  refine ⟨fun sent inside carries => ?_, foreign⟩
  cases issuer : sent.issuer with
  | none => exact absurd (foreign sent inside issuer) carries
  | some pair =>
    obtain ⟨ref, role⟩ := pair
    obtain ⟨handler, client, transporter, _, held, accepted, _, wire, _⟩ :=
      issued.made inside issuer
    have sound := issued.sound ref handler held
    have owner := sound.answered client transporter accepted
    rw [responsesOf] at wire
    split at wire
    · next analysed =>
      obtain ⟨⟨id, time, sid, encoded, _⟩, _⟩ := analysis_ok sound.vouched owner analysed
      refine ⟨ref, role, handler, client, transporter, id, time, rfl, held, accepted, sid, ?_⟩
      intro now manifest
      rw [Server.encode_eq] at encoded
      split_ifs at encoded with shaped
      rw [wire, ← Option.some.inj encoded, decode_ok_iff, readFields_flatten shaped]
      constructor
      · rintro ⟨_, rfl, _, current⟩
        exact ⟨rfl, current⟩
      · rintro ⟨rfl, current⟩
        exact ⟨(framed_flatten shaped).1, rfl, shaped, current⟩
    · exact absurd wire carries

end Controller

end EspFrp.NatHole
