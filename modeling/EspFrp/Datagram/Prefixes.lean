import EspFrp.Datagram.Agreement
import Mathlib.Data.List.GetD

/-!
# Headers from a prefix

The client judges a datagram before all of it has arrived.  What it says of a
prefix, unless it waits for more, is what it says of the whole frame.
-/

namespace EspFrp.Datagram

/-! ## Addresses -/

/-- Bytes are missing, or those behind what is read do not matter. -/
inductive Read {Value : Type} (read : List UInt8 → Except Result (Value × List UInt8))
    (rest : List UInt8) : Prop where
  | truncated (outcome : read rest = .error .truncated) (short : rest.length < 275)
  | settled (longer : ∀ more, read (rest ++ more) = (read rest).map (Prod.map id (· ++ more)))
      (short : match read rest with
        | .ok (_, after) => rest.length ≤ after.length + 275
        | .error error => error = .protocolError)

theorem getU16_append {rest : List UInt8} (full : 2 ≤ rest.length)
    (more : List UInt8) : getU16 (rest ++ more) = getU16 rest := by
  rw [getU16, List.take_append_of_le_length full, getU16]

/-- An address takes at most 275 bytes. -/
theorem readAddress_read (rest : List UInt8) : Read readAddress rest := by
  cases rest with
  | nil => exact .truncated rfl (by decide)
  | cons family rest =>
    have ipLength : ipBytes family ≤ 16 := by
      unfold ipBytes
      split <;> decide
    have zoneLength := (rest.getD (ipBytes family + 2) 0).toNat_lt
    by_cases unknown : family ≠ 4 ∧ family ≠ 6
    · have refused (rest) : readAddress (family :: rest) = .error .protocolError := if_pos unknown
      refine .settled (fun more => ?_) ?_
      · rw [refused]
        exact refused _
      · rw [refused]
    have known (rest) : readAddress (family :: rest) = _ := if_neg unknown
    by_cases short : rest.length < ipBytes family + 3
    · refine .truncated ((known rest).trans (if_pos short)) ?_
      rw [List.length_cons]
      omega
    have here := (known rest).trans (if_neg short)
    by_cases missing : (rest.drop (ipBytes family + 3)).length <
        (rest.getD (ipBytes family + 2) 0).toNat
    · refine .truncated (here.trans (if_pos missing)) ?_
      rw [List.length_drop] at missing
      rw [List.length_cons]
      omega
    rw [if_neg missing] at here
    refine .settled (fun more => ?_) ?_
    · rw [List.cons_append, known, here, if_neg (by rw [List.length_append]; omega),
        List.getD_append _ _ _ _ (by omega),
        List.drop_append_of_le_length (by omega),
        if_neg (by rw [List.length_append]; omega),
        List.take_append_of_le_length (by omega)]
      split
      · rfl
      rw [List.take_append_of_le_length (by omega), List.drop_append_of_le_length (by omega),
        List.drop_append_of_le_length (by omega),
        getU16_append (by rw [List.length_drop]; omega)]
      rfl
    · rw [here]
      split_ifs
      · rfl
      simp only [List.length_cons, List.length_drop] at missing ⊢
      omega

theorem readLocal_read (flags : UInt8) (rest : List UInt8) : Read (readLocal flags) rest := by
  by_cases present : flags &&& 1 ≠ 0
  · have reads (rest : List UInt8) : readLocal flags rest = _ := if_pos present
    cases readAddress_read rest with
    | truncated outcome short => exact .truncated (by rw [reads, outcome]) short
    | settled longer short =>
      refine .settled (fun more => ?_) ?_
      · rw [reads, reads, longer]
        cases readAddress rest <;> rfl
      · rw [reads]
        cases read : readAddress rest <;> rw [read] at short <;> exact short
  · have skips (rest : List UInt8) : readLocal flags rest = .ok (none, rest) := if_neg present
    refine .settled (fun more => ?_) ?_
    · rw [skips, skips]
      rfl
    · rw [skips]
      exact Nat.le_add_right _ _

/-! ## Headers -/

/-- The client waits, or says of a prefix what it says of the frame. -/
inductive Judging (part more : List UInt8) : Prop where
  | waits (outcome : headerDecode part (part ++ more).length = .error .wouldBlock)
      (missing : more ≠ []) (short : part.length < 555)
  | judged (outcome : headerDecode part (part ++ more).length =
        headerDecode (part ++ more) (part ++ more).length)
      (settled : headerDecode part (part ++ more).length ≠ .error .wouldBlock)

variable {part more : List UInt8}

theorem Judging.of_error {error : Result}
    (early : headerDecode part (part ++ more).length = .error error)
    (whole : headerDecode (part ++ more) (part ++ more).length = .error error)
    (settled : error ≠ .wouldBlock) : Judging part more := by
  refine .judged (early.trans whole.symm) ?_
  rw [early]
  exact fun same => settled (Except.error.inj same)

/-- Bytes that are missing are waited for, unless the frame is complete. -/
theorem Judging.of_incomplete (short : part.length < 555)
    (outcome : headerDecode part (part ++ more).length =
      .error (if part.length < (part ++ more).length then .wouldBlock
        else .truncated)) : Judging part more := by
  cases more with
  | nil =>
    rw [if_neg (by simp)] at outcome
    refine .judged (by rw [List.append_nil]) ?_
    rw [outcome]
    exact fun same => Result.noConfusion (Except.error.inj same)
  | cons =>
    rw [if_pos (by simp)] at outcome
    exact .waits outcome (List.cons_ne_nil _ _) short

theorem headerDecode_judging (part more : List UInt8) : Judging part more := by
  have length : (part ++ more).length = part.length + more.length := List.length_append
  have early : headerDecode part (part ++ more).length = _ := if_neg (by omega)
  have whole : headerDecode (part ++ more) (part ++ more).length = _ := if_neg (Nat.lt_irrefl _)
  by_cases large : wireMaxPayload < (part ++ more).length
  · rw [if_pos large] at early whole
    exact .of_error early whole (by decide)
  rw [if_neg large] at early whole
  by_cases short : part.length < 3
  · exact .of_incomplete (by omega) (early.trans (if_pos short))
  rw [if_neg short] at early
  rw [if_neg (by omega), if_neg (Nat.lt_irrefl _), getU16_append (by omega),
    List.getD_append _ _ _ _ (by omega),
    List.drop_append_of_le_length (by omega)] at whole
  simp only [orIncomplete_truncated] at whole
  by_cases wrong : getU16 part ≠ 19 ∨ part.getD 2 0 &&& 0xfc ≠ 0 ∨ part.getD 2 0 &&& 2 = 0
  · rw [if_pos wrong] at early whole
    exact .of_error early whole (by decide)
  rw [if_neg wrong] at early whole
  cases readLocal_read (part.getD 2 0) (part.drop 3) with
  | truncated outcome missing =>
    rw [outcome] at early
    rw [List.length_drop] at missing
    exact .of_incomplete (by omega) early
  | settled longer taken =>
    rw [longer] at whole
    generalize readLocal (part.getD 2 0) (part.drop 3) = outcome at *
    rcases outcome with error | ⟨localAddress, middle⟩
    · obtain rfl : error = .protocolError := taken
      exact .of_error early whole (by decide)
    rw [List.length_drop] at taken
    change _ = (orIncomplete _ (readAddress middle) >>= _) at early
    change _ = (readAddress (middle ++ more) >>= _) at whole
    cases readAddress_read middle with
    | truncated outcome =>
      rw [outcome] at early
      exact .of_incomplete (by omega) early
    | settled longer remaining =>
      rw [longer] at whole
      generalize readAddress middle = outcome at *
      rcases outcome with error | ⟨remoteAddress, last⟩
      · obtain rfl : error = .protocolError := remaining
        exact .of_error early whole (by decide)
      have rest : (last ++ more).length = last.length + more.length := List.length_append
      change _ = (readLength _ _ (part.length - last.length + 2) last >>= _)
        at early
      simp only [Except.map, Prod.map, id, Bind.bind, Except.bind,
        show (part ++ more).length - (last ++ more).length =
          part.length - last.length by omega] at whole
      by_cases missing : last.length < 2
      · rw [readLength, if_pos missing] at early
        exact .of_incomplete (by omega) early
      rw [readLength, getU16_append (by omega), if_neg (by omega)] at whole
      rw [readLength, if_neg missing] at early
      refine .judged (early.trans whole.symm) ?_
      rw [early]
      split_ifs <;> simp

/--
What the client says of the header of a prefix is what it says of the whole
frame, unless it waits for more.  It does not wait behind the longest header.
-/
theorem headers_foreseen (frame : List UInt8) (count : Nat) :
    let part := frame.take count
    let judged := headerDecode part frame.length
    (judged = .error .wouldBlock ∨ judged = headerDecode frame frame.length) ∧
      (555 ≤ part.length ∨ part = frame → judged ≠ .error .wouldBlock) ∧
      ((∃ packet, decode frame = .ok packet) ↔
        ∃ header, headerDecode frame frame.length = .ok header) := by
  intro part judged
  have decodes : (∃ packet, decode frame = .ok packet) ↔
      ∃ header, headerDecode frame frame.length = .ok header := by
    rw [decode]
    cases headerDecode frame frame.length with
    | error => simp [Bind.bind, Except.bind]
    | ok header => exact ⟨fun _ => ⟨header, rfl⟩, fun _ => ⟨_, rfl⟩⟩
  have split : part ++ frame.drop count = frame := List.take_append_drop ..
  cases headerDecode_judging part (frame.drop count) with
  | waits outcome missing =>
    rw [split] at outcome
    refine ⟨.inl outcome, ?_, decodes⟩
    rintro (long | complete)
    · omega
    · rw [complete] at split
      exact absurd (List.append_right_eq_self.mp split) missing
  | judged outcome settled =>
    rw [split] at outcome settled
    exact ⟨.inr outcome, fun _ => settled, decodes⟩

/-- A verdict of the client on a prefix is the verdict of the server on the whole frame. -/
theorem verdicts_agree (frame : List UInt8) (count : Nat) :
    match headerDecode (frame.take count) frame.length with
    | .ok (localAddress, remoteAddress, length, offset) => ∃ body, frame = typed body ∧
        Server.decode body = some (Packet.server
          { localAddress, remoteAddress, payload := (frame.drop offset).take length })
    | .error error => error = .wouldBlock ∨
        ∀ body, frame = typed body → Server.decode body = none := by
  have split := List.take_append_drop count frame
  cases headerDecode_judging (frame.take count) (frame.drop count) with
  | waits outcome =>
    rw [split] at outcome
    rw [outcome]
    exact .inl rfl
  | judged outcome =>
    rw [split] at outcome
    rw [outcome]
    cases header : headerDecode frame frame.length with
    | error =>
      refine .inr ?_
      rintro body rfl
      rw [decode_typed, decode, header]
      rfl
    | ok =>
      obtain ⟨body, rfl⟩ := headerDecode_ok_typed header
      refine ⟨body, rfl, ?_⟩
      rw [decode_typed, decode, header]
      rfl

end EspFrp.Datagram
