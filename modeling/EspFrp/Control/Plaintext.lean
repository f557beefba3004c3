import EspFrp.Control.Session
import EspFrp.Xtcp.Admission

/-!
# Two producers and one writer

The plaintext of a session comes from the message it has queued and from the
frame its controller holds.  `Plain` is what the writer sees of both.  A frame
of which a part was taken is the only one in progress, until all of it was
taken.
-/

namespace EspFrp.Control

/-- A control message or a signal, as it was encoded. -/
def Whole (frame : List UInt8) : Prop :=
  ∃ type ∈ [3, 11, 20, 21, 24], ∃ text, Wire.messageFrame type text = .ok frame

theorem Whole.of_signal (signal : Xtcp.Signal frame) : Whole frame := by
  obtain ⟨type, known, text, encoded⟩ := signal
  refine ⟨type, ?_, text, encoded⟩
  simp only [List.mem_cons, List.not_mem_nil, or_false] at known ⊢
  rcases known with rfl | rfl | rfl <;> simp

/-- The frame that an event has queued. -/
def Event.frame? : Event → Option (List UInt8)
  | .proxyQueued frame | .pingQueued frame => some frame
  | _ => none

/-- What the writer sees of a session. -/
structure Plain where
  controlTx : List UInt8
  txOffset : Nat
  sent : List UInt8
  begun : List (List UInt8)
  retired : List (List UInt8)
  queued : List (List UInt8)
  outbox : Option (List UInt8 × Nat × List (List UInt8))
  registered : Bool

/-- The writer's view. -/
def Session.plain {Rx Tx : Type} (session : Session Rx Tx) : Plain where
  controlTx := session.controlTx
  txOffset := session.txOffset
  sent := session.sent
  begun := session.begun
  retired := session.retired
  queued := session.history.filterMap Event.frame?
  outbox := session.xtcp.map Xtcp.Controller.outbox
  registered := session.phase == .registered

namespace Plain

/-- The frames of the controller. -/
def signals (plain : Plain) : List (List UInt8) :=
  match plain.outbox with
  | some (_, _, encoded) => encoded
  | none => []

/-- Every frame that was encoded. -/
def encoded (plain : Plain) : List (List UInt8) := plain.queued ++ plain.retired ++ plain.signals

/-- How much of the frame of the controller was taken. -/
def taken (plain : Plain) : Nat :=
  match plain.outbox with
  | some (_, offset, _) => offset
  | none => 0

/-- The frame of the controller. -/
def output (plain : Plain) : List UInt8 :=
  match plain.outbox with
  | some (output, _, _) => output
  | none => []

/-- The rest of the frame in progress. -/
def unsent (plain : Plain) : List UInt8 :=
  if 0 < plain.txOffset then plain.controlTx.drop plain.txOffset
  else if 0 < plain.taken then plain.output.drop plain.taken
  else []

/-- What was written is a part of whole frames, of which only the last may
be unfinished. -/
structure Framed (plain : Plain) : Prop where
  begins : plain.sent <+: plain.begun.flatten
  finished : plain.begun.dropLast.flatten <+: plain.sent
  known : ∀ frame ∈ plain.begun, frame ∈ plain.encoded
  whole : ∀ frame ∈ plain.encoded, Whole frame
  single : plain.outbox.isSome = true → plain.retired = []

/-- At most one frame is in progress, and its rest comes next. -/
structure Sound (plain : Plain) : Prop extends Framed plain where
  rest : plain.begun.flatten = plain.sent ++ plain.unsent
  control : plain.controlTx = [] ∧ plain.txOffset = 0 ∨
    plain.controlTx ∈ plain.encoded ∧ plain.txOffset < plain.controlTx.length
  signal : plain.output = [] ∧ plain.taken = 0 ∨
    plain.output ∈ plain.signals ∧ plain.taken < plain.output.length
  apart : 0 < plain.taken → plain.controlTx = [] ∧ plain.registered = true

/-- A frame that was begun stays as it is, and so do the bytes written. -/
structure Wrote (plain next : Plain) : Prop where
  sound : next.Sound
  begun : plain.begun <+: next.begun
  sent : plain.sent <+: next.sent

theorem Wrote.refl (sound : plain.Sound) : Wrote plain plain :=
  ⟨sound, List.prefix_rfl, List.prefix_rfl⟩

theorem Wrote.trans (before : Wrote first second)
    (after : second.Sound → Wrote second third) : Wrote first third :=
  have after := after before.sound
  ⟨after.sound, before.begun.trans after.begun, before.sent.trans after.sent⟩

/-- Nothing was written. -/
theorem Wrote.still (sound : next.Sound) (begun : next.begun = plain.begun)
    (sent : next.sent = plain.sent) : Wrote plain next :=
  ⟨sound, begun ▸ List.prefix_rfl, sent ▸ List.prefix_rfl⟩

/-- The frames stay known when the session gives up its resources. -/
theorem Framed.keep {plain next : Plain} (framed : plain.Framed) (sent : next.sent = plain.sent)
    (begun : next.begun = plain.begun) (encoded : next.encoded = plain.encoded)
    (single : next.outbox.isSome = true → next.retired = []) : next.Framed where
  begins := by rw [sent, begun]; exact framed.begins
  finished := by rw [sent, begun]; exact framed.finished
  known := by rw [begun, encoded]; exact framed.known
  whole := by rw [encoded]; exact framed.whole
  single := single

theorem Sound.initial (outbox : Option (List UInt8 × Nat × List (List UInt8)))
    (empty : ∀ box ∈ outbox, box = ([], 0, [])) : Sound ⟨[], 0, [], [], [], [], outbox, false⟩ := by
  have none : outbox = none ∨ outbox = some ([], 0, []) := by
    cases outbox with
    | none => exact .inl rfl
    | some box => exact .inr (congrArg some (empty box rfl))
  have bare : (Plain.mk [] 0 [] [] [] [] outbox false).signals = [] ∧
      (Plain.mk [] 0 [] [] [] [] outbox false).taken = 0 ∧
      (Plain.mk [] 0 [] [] [] [] outbox false).output = [] := by
    rcases none with rfl | rfl <;> exact ⟨rfl, rfl, rfl⟩
  obtain ⟨signals, taken, output⟩ := bare
  refine ⟨⟨List.prefix_rfl, List.prefix_rfl, ?_, ?_, fun _ => rfl⟩, ?_, .inl ⟨rfl, rfl⟩,
    .inl ⟨output, taken⟩, ?_⟩
  · intro frame member
    cases member
  · intro frame member
    rw [encoded, signals] at member
    cases member
  · rw [unsent, taken]
    rfl
  · rw [taken]
    intro impossible
    cases impossible

/-! ## What happens to the view -/

variable {plain : Plain}

/-- Nothing that the writer sees changes, but the phase may move forward. -/
theorem Sound.phase (sound : plain.Sound) (registered : Bool)
    (forward : plain.registered = true → registered = true) :
    Sound { plain with registered := registered } :=
  ⟨⟨sound.begins, sound.finished, sound.known, sound.whole, sound.single⟩, sound.rest,
    sound.control, sound.signal,
    fun started => ⟨(sound.apart started).1, forward (sound.apart started).2⟩⟩

/-- The controller places a frame into its empty output. -/
theorem Sound.emit (sound : plain.Sound)
    (present : plain.outbox = some xtcp.outbox) (emits : Xtcp.Controller.Emits xtcp next) :
    Sound { plain with outbox := some next.outbox } := by
  cases emits with
  | kept same => rw [same, ← present]; exact sound
  | emitted frame empty signal placed =>
    rw [placed]
    have output : plain.output = [] := by
      rw [Plain.output, present]
      exact empty
    have taken : plain.taken = 0 := by
      rcases sound.signal with ⟨_, none⟩ | ⟨_, bounded⟩
      · exact none
      rw [output] at bounded
      cases bounded
    have signals : plain.signals = xtcp.encoded := by
      rw [Plain.signals, present]
      rfl
    have more : ∀ known ∈ plain.encoded, known ∈ Plain.encoded
        { plain with outbox := some (frame, 0, xtcp.encoded ++ [frame]) } := by
      intro known member
      rw [encoded, signals] at member
      change known ∈ plain.queued ++ plain.retired ++ (xtcp.encoded ++ [frame])
      rw [← List.append_assoc]
      exact List.mem_append_left _ member
    refine ⟨⟨sound.begins, sound.finished, fun known member =>
        more known (sound.known known member), ?_, fun _ =>
        sound.single (by rw [present]; rfl)⟩, ?_, ?_, ?_, ?_⟩
    · intro known member
      rw [encoded] at member
      change known ∈ plain.queued ++ plain.retired ++ (xtcp.encoded ++ [frame]) at member
      rw [← List.append_assoc, List.mem_append] at member
      rcases member with member | member
      · rw [← signals] at member
        exact sound.whole known member
      rw [List.mem_singleton] at member
      exact member ▸ .of_signal signal
    · have rest := sound.rest
      rw [unsent, taken] at rest
      exact rest
    · rcases sound.control with none | ⟨member, bounded⟩
      · exact .inl none
      · exact .inr ⟨more _ member, bounded⟩
    · refine .inr ⟨List.mem_append_right _ List.mem_cons_self, ?_⟩
      exact List.length_pos_iff.mpr signal.nonempty
    · intro impossible
      cases impossible

/-- A control message is queued when nothing is in progress. -/
theorem Sound.queue (sound : plain.Sound) (idle : plain.controlTx = [])
    (untaken : plain.taken = 0) (nonempty : frame ≠ []) (isWhole : Whole frame) :
    Sound { plain with
      controlTx := frame
      txOffset := 0
      queued := plain.queued ++ [frame] } := by
  have start : plain.txOffset = 0 := by
    rcases sound.control with ⟨_, none⟩ | ⟨_, bounded⟩
    · exact none
    rw [idle] at bounded
    cases bounded
  have split : ∀ known, known ∈ Plain.encoded { plain with
      controlTx := frame
      txOffset := 0
      queued := plain.queued ++ [frame] } ↔
      known ∈ plain.encoded ∨ known = frame := by
    intro known
    change known ∈ plain.queued ++ [frame] ++ plain.retired ++ plain.signals ↔ _
    rw [encoded]
    simp only [List.mem_append, List.mem_singleton]
    tauto
  refine ⟨⟨sound.begins, sound.finished, fun known member =>
      (split known).mpr (.inl (sound.known known member)), ?_,
      sound.single⟩, ?_, ?_, sound.signal, ?_⟩
  · intro known member
    rcases (split known).mp member with member | rfl
    · exact sound.whole known member
    · exact isWhole
  · have rest := sound.rest
    rw [unsent, start, untaken] at rest
    change plain.begun.flatten = plain.sent ++
      (if 0 < 0 then _ else if 0 < plain.taken then _ else [])
    rw [untaken]
    exact rest
  · exact .inr ⟨(split frame).mpr (.inr rfl), List.length_pos_iff.mpr nonempty⟩
  · intro started
    change 0 < plain.taken at started
    rw [untaken] at started
    cases started

/-! ## Writing -/

/-- The frames that were begun, after a part of one was taken. -/
def beginning (begun : List (List UInt8)) (frame : List UInt8)
    (offset : Nat) (bytes : List UInt8) : List (List UInt8) :=
  if offset = 0 ∧ bytes ≠ [] then begun ++ [frame] else begun

variable {begun : List (List UInt8)} {sent frame : List UInt8}

/-- A part of a frame is taken from where the last part ended. -/
theorem taking (rest : begun.flatten = sent ++ if 0 < offset then frame.drop offset else [])
    (fits : offset + used ≤ frame.length) :
    (beginning begun frame offset ((frame.drop offset).take used)).flatten =
      sent ++ (frame.drop offset).take used ++
        if 0 < offset + used then frame.drop (offset + used) else [] := by
  have parts : (frame.drop offset).take used ++ frame.drop (offset + used) = frame.drop offset := by
    rw [← List.drop_drop]
    exact List.take_append_drop used _
  rw [beginning]
  split
  · next first =>
    obtain ⟨rfl, some⟩ := first
    have positive : 0 < used := by
      apply Nat.pos_of_ne_zero
      rintro rfl
      exact some (List.take_zero)
    rw [if_neg (Nat.lt_irrefl 0), List.append_nil] at rest
    rw [if_pos (by rw [Nat.zero_add]; exact positive),
      List.append_assoc, parts, List.flatten_append, rest]
    simp
  · next later =>
    by_cases started : 0 < offset
    · rw [if_pos started] at rest
      rw [if_pos (Nat.add_pos_left started used), List.append_assoc, parts]
      exact rest
    have zero : offset = 0 := Nat.eq_zero_of_not_pos started
    subst zero
    have none : (frame.drop 0).take used = [] := by
      by_contra some
      exact later ⟨rfl, some⟩
    have unused : used = 0 := by
      rw [List.drop_zero, List.take_eq_nil_iff] at none
      rcases none with none | none
      · exact none
      rw [none] at fits
      simpa using fits
    subst unused
    simpa using rest

theorem beginning_mem
    (member : known ∈ beginning begun frame offset bytes) : known ∈ begun ∨ known = frame := by
  rw [beginning] at member
  split at member
  · simpa using member
  · exact .inl member

theorem beginning_prefix (begun : List (List UInt8)) (frame : List UInt8) (offset : Nat)
    (bytes : List UInt8) : begun <+: beginning begun frame offset bytes := by
  rw [beginning]
  split
  · exact List.prefix_append _ _
  · exact List.prefix_rfl

/-- A frame is begun when the others are finished. -/
theorem beginning_finished (bytes : List UInt8)
    (rest : begun.flatten = sent ++ if 0 < offset then frame.drop offset else [])
    (finished : begun.dropLast.flatten <+: sent) :
    (beginning begun frame offset bytes).dropLast.flatten <+: sent ++ bytes := by
  rw [beginning]
  split
  · next first =>
    obtain ⟨rfl, _⟩ := first
    rw [if_neg (Nat.lt_irrefl 0), List.append_nil] at rest
    rw [List.dropLast_concat, rest]
    exact List.prefix_append _ _
  · exact finished.trans (List.prefix_append _ _)

/-- A part of the queued message is written. -/
theorem Sound.sealControl (sound : plain.Sound) (queued : plain.controlTx ≠ [])
    {used : Nat} (fits : plain.txOffset + used ≤ plain.controlTx.length) : let next :=
      { plain with
        sent := plain.sent ++ (plain.controlTx.drop plain.txOffset).take used
        begun := beginning plain.begun plain.controlTx plain.txOffset
          ((plain.controlTx.drop plain.txOffset).take used) }
    (plain.txOffset + used = plain.controlTx.length →
        Sound { next with controlTx := [], txOffset := 0 }) ∧
      (plain.txOffset + used ≠ plain.controlTx.length →
        Sound { next with txOffset := plain.txOffset + used }) := by
  obtain ⟨member, _⟩ : plain.controlTx ∈ plain.encoded ∧
      plain.txOffset < plain.controlTx.length := by
    rcases sound.control with ⟨none, _⟩ | some
    · exact absurd none queued
    · exact some
  have untaken : plain.taken = 0 := by
    apply Nat.eq_zero_of_not_pos
    intro started
    exact queued (sound.apart started).1
  have rest : plain.begun.flatten = plain.sent ++
      if 0 < plain.txOffset then plain.controlTx.drop plain.txOffset
      else [] := by
    have rest := sound.rest
    rw [unsent, untaken, if_neg (Nat.lt_irrefl 0)] at rest
    exact rest
  have grown := taking rest fits
  have known : ∀ frame ∈ beginning plain.begun plain.controlTx
      plain.txOffset ((plain.controlTx.drop plain.txOffset).take used),
      frame ∈ plain.encoded := by
    intro frame begun
    rcases beginning_mem begun with begun | rfl
    · exact sound.known frame begun
    · exact member
  have begins : plain.sent ++ (plain.controlTx.drop plain.txOffset).take used <+:
      (beginning plain.begun plain.controlTx plain.txOffset
        ((plain.controlTx.drop plain.txOffset).take used)).flatten := by
    rw [grown]
    exact List.prefix_append _ _
  have finished := beginning_finished
    ((plain.controlTx.drop plain.txOffset).take used) rest sound.finished
  have clear : ∀ started : 0 < plain.taken, False := by
    intro started
    rw [untaken] at started
    cases started
  refine ⟨fun complete => ?_, fun partly => ?_⟩
  · refine ⟨⟨begins, finished, known, sound.whole, sound.single⟩, ?_,
      .inl ⟨rfl, rfl⟩, sound.signal, fun started => (clear started).elim⟩
    change _ = _ ++ (if 0 < 0 then _ else if 0 < plain.taken then _ else [])
    rw [untaken]
    rw [complete, List.drop_length] at grown
    simpa using grown
  · refine ⟨⟨begins, finished, known, sound.whole, sound.single⟩, ?_, .inr ⟨member,
      Nat.lt_of_le_of_ne fits partly⟩, sound.signal, fun started => (clear started).elim⟩
    change _ = _ ++ (if 0 < plain.txOffset + used then _
      else if 0 < plain.taken then _ else [])
    rw [untaken]
    exact grown

/-- A part of the frame of the controller is written. -/
theorem Sound.sealSignal (sound : plain.Sound) (idle : plain.controlTx = [])
    (registered : plain.registered = true) {frame : List UInt8} {offset used : Nat}
    {signals : List (List UInt8)} (present : plain.outbox = some (frame, offset, signals))
    (fits : offset + used ≤ frame.length) : let next :=
      { plain with
        sent := plain.sent ++ (frame.drop offset).take used
        begun := beginning plain.begun frame offset ((frame.drop offset).take used) }
    (offset + used = frame.length → Sound { next with outbox := some ([], 0, signals) }) ∧
      (offset + used < frame.length →
        Sound { next with
          outbox := some (frame, offset + used, signals) }) := by
  have output : plain.output = frame := by rw [Plain.output, present]
  have taken : plain.taken = offset := by rw [Plain.taken, present]
  have known : plain.signals = signals := by rw [Plain.signals, present]
  have start : plain.txOffset = 0 := by
    rcases sound.control with ⟨_, none⟩ | ⟨_, bounded⟩
    · exact none
    rw [idle] at bounded
    cases bounded
  have rest : plain.begun.flatten = plain.sent ++
      if 0 < offset then frame.drop offset else [] := by
    have rest := sound.rest
    rw [unsent, start, if_neg (Nat.lt_irrefl 0), taken, output] at rest
    exact rest
  have grown := taking rest fits
  have placed : frame ≠ [] → frame ∈ signals := by
    intro some
    rcases sound.signal with ⟨none, _⟩ | ⟨member, _⟩
    · rw [output] at none
      exact absurd none some
    rw [output, known] at member
    exact member
  have every : ∀ member ∈ plain.begun, member ∈ plain.queued ++ plain.retired ++ signals := by
    intro member begun
    have encoded := sound.known member begun
    rw [Plain.encoded, known] at encoded
    exact encoded
  have named : ∀ member ∈ beginning plain.begun frame offset ((frame.drop offset).take used),
      member ∈ plain.queued ++ plain.retired ++ signals := by
    intro member begun
    rw [beginning] at begun
    split at begun
    · next first =>
      rw [List.mem_append, List.mem_singleton] at begun
      rcases begun with begun | rfl
      · exact every member begun
      refine List.mem_append_right _ (placed ?_)
      rintro rfl
      exact first.2 (by simp)
    · exact every member begun
  have whole : ∀ member ∈ plain.queued ++ plain.retired ++ signals,
      Whole member := by
    intro member encoded
    refine sound.whole member ?_
    rw [Plain.encoded, known]
    exact encoded
  have begins : plain.sent ++ (frame.drop offset).take used <+: (beginning plain.begun frame offset
        ((frame.drop offset).take used)).flatten := by
    rw [grown]
    exact List.prefix_append _ _
  have finished := beginning_finished ((frame.drop offset).take used) rest sound.finished
  have single := sound.single (by rw [present]; rfl)
  refine ⟨fun complete => ?_, fun partly => ?_⟩
  · refine ⟨⟨begins, finished, named, whole, fun _ => single⟩, ?_,
      .inl ⟨idle, start⟩, .inl ⟨rfl, rfl⟩, fun started => by cases started⟩
    change _ = _ ++ (if 0 < plain.txOffset then _ else [])
    rw [start]
    rw [complete, List.drop_length] at grown
    simpa using grown
  · refine ⟨⟨begins, finished, named, whole, fun _ => single⟩, ?_, .inl ⟨idle, start⟩,
      .inr ⟨placed ?_, partly⟩, fun _ => ⟨idle, registered⟩⟩
    · rw [start]
      exact grown
    · rintro rfl
      cases partly

end Plain

end EspFrp.Control
