import EspFrp.Json.Text
import EspFrp.NatHole.Issuance
import EspFrp.Xtcp.Controller

/-!
# Rejections of the server

The error in an answer of the server contains what the visitor sent: the name
of its proxy and of its user.  The client takes an error of at most 256 bytes
without control characters as a rejection of the attempt; every other error
ends its control session.
-/

namespace EspFrp.NatHole

open Binding Controller Library

variable (accepted : Option Json.Value → List UInt8 → Option Xtcp.Response)

/-! ## Reading an answer -/

/-- `text` of the codec of the client. -/
def isText (minimum maximum : Nat) (bytes : List UInt8) : Bool :=
  decide (minimum ≤ bytes.length) && decide (bytes.length ≤ maximum) &&
    Json.utf8 bytes && !bytes.any isControl

/-- `copy_text`. -/
def copyText (root : Option Json.Value) (name : String)
    (minimum maximum : Nat) : Option (List UInt8) :=
  (Json.text root (Json.ascii name)).filter (isText minimum maximum)

/-- The fields of an answer. -/
def responseFields : List (List UInt8) :=
  ["binding_manifest", "peer_certificate", "transaction_id", "sid",
    "protocol", "candidate_addrs", "assisted_addrs", "detect_behavior",
    "error"].map Json.ascii

/-- The fields of an answer with an error. -/
def errorFields : List (List UInt8) :=
  ["transaction_id", "sid", "error", "detect_behavior"].map Json.ascii

/--
`efrp_xtcp_codec_response`; `accepted` reads the other fields of an answer
without an error.
-/
def codecResponse (parse : Json.Parser)
    (accepted : Option Json.Value → List UInt8 → Option Xtcp.Response)
    (kind : Wire.Kind) (payload : List UInt8) : Option Xtcp.Response :=
  if kind ≠ .message ∨ payload.length < 2 ∨ Xtcp.signalMaxBytes - 8 < payload.length ∨
      payload.getD 0 0 ≠ 0 ∨ payload.getD 1 0 ≠ 22 then
    none
  else
    let root := parse (payload.drop 2)
    if Json.shape root responseFields = false then
      none
    else
      match copyText root "transaction_id" 1 64, copyText root "error" 0 256 with
      | some transactionId, some error =>
        if error = [] then
          accepted root transactionId
        else if Json.shape root errorFields &&
            Json.shape (Json.field root (Json.ascii "detect_behavior")) [] &&
            (Json.text root (Json.ascii "sid")).any fun sid =>
              sid = [] || Xtcp.Controller.hex32 sid then
          some { rejected := true, transactionId }
        else
          none
      | _, _ => none

/-- `NatHoleResp` with an error as a document: empty fields are omitted. -/
def document (response : Response) : Json.Value :=
  let member (name : String) (text : List UInt8) :=
    if text = [] then [] else [(Json.ascii name, Json.Value.text text)]
  .object (member "transaction_id" response.transactionId ++ member "sid" response.sid ++
    [(Json.ascii "detect_behavior", .object [])] ++
    member "error" response.error)

/-- The document of an error. -/
def rejection (transactionId error : List UInt8) : Json.Value :=
  .object [(Json.ascii "transaction_id", .text transactionId),
    (Json.ascii "detect_behavior", .object []),
    (Json.ascii "error", .text error)]

theorem document_rejection (named : transactionId ≠ []) (present : error ≠ []) :
    document (genNatHoleResponse transactionId error) = rejection transactionId error := by
  simp [document, genNatHoleResponse, rejection, named, present]

theorem shape_rejection (transactionId error : List UInt8) {allowed : List (List UInt8)}
    (first : Json.ascii "transaction_id" ∈ allowed)
    (second : Json.ascii "detect_behavior" ∈ allowed) (third : Json.ascii "error" ∈ allowed) :
    Json.shape (some (rejection transactionId error)) allowed = true := by
  simp only [rejection, Json.shape, List.all_cons, List.all_nil,
    List.map_cons, List.map_nil, List.contains_iff_mem.mpr first,
    List.contains_iff_mem.mpr second, List.contains_iff_mem.mpr third]
  decide

/-- An answer with an error is read as a rejection. -/
theorem codecResponse_document {parse : Json.Parser} {text : List UInt8}
    (requested : isText 1 64 transactionId = true) (readable : isText 0 256 error = true)
    (present : error ≠ []) (fits : text.length + 10 ≤ Xtcp.signalMaxBytes)
    (read : parse text = some (document (genNatHoleResponse transactionId error))) :
    codecResponse parse accepted .message (0 :: 22 :: text) =
      some { rejected := true, transactionId } := by
  have named : transactionId ≠ [] := by
    rintro rfl
    cases requested
  have framed : ¬(Wire.Kind.message ≠ .message ∨ (0 :: 22 :: text).length < 2 ∨
      Xtcp.signalMaxBytes - 8 < (0 :: 22 :: text).length ∨
      (0 :: 22 :: text).getD 0 0 ≠ 0 ∨
      (0 :: 22 :: text).getD 1 0 ≠ 22) := by
    rw [List.length_cons, List.length_cons]
    rintro (other | short | long | type | type)
    · exact other rfl
    · omega
    · omega
    · exact type rfl
    · exact type rfl
  have behind : List.drop 2 (0 :: 22 :: text) = text := rfl
  have id : copyText (some (rejection transactionId error))
      "transaction_id" 1 64 = some transactionId := if_pos requested
  have reason : copyText (some (rejection transactionId error))
      "error" 0 256 = some error := if_pos readable
  rw [codecResponse, if_neg framed, behind, read, document_rejection named present]
  dsimp only
  rw [shape_rejection _ _ (by decide) (by decide) (by decide), if_neg (by decide), id, reason]
  dsimp only
  rw [if_neg present, shape_rejection _ _ (by decide) (by decide) (by decide)]
  rfl

/-! ## Texts -/

theorem character?_stable (scanned : Json.character? bytes = some size) :
    size ≤ bytes.length ∧ ∀ more, Json.character? (bytes ++ more) = some size := by
  cases bytes with
  | nil => cases scanned
  | cons =>
    rw [Json.character?] at scanned
    split at scanned
    · cases scanned
    next nonzero =>
      split at scanned
      next short =>
        cases scanned
        refine ⟨by simp, fun more => ?_⟩
        rw [List.cons_append, Json.character?, if_neg nonzero, if_pos short]
      next long =>
        split at scanned
        · cases scanned
        next extra minimum bits found =>
          split at scanned
          · cases scanned
          next enough =>
            split at scanned
            · cases scanned
            next point read =>
              split at scanned
              next within =>
                cases scanned
                have enough := Nat.not_lt.mp enough
                refine ⟨by simpa using enough, fun more => ?_⟩
                rw [List.cons_append, Json.character?, if_neg nonzero, if_neg long, found]
                dsimp only
                rw [if_neg (by rw [List.length_append]; omega),
                  List.take_append_of_le_length enough, read]
                exact if_pos within
              · cases scanned

theorem isText_append
    (left : isText 0 firstMax first = true) (right : isText 0 secondMax second = true) :
    isText 0 (firstMax + secondMax) (first ++ second) = true := by
  simp only [isText, Bool.and_eq_true, decide_eq_true_eq,
    List.length_append, List.any_append, Bool.not_or] at left right ⊢
  refine ⟨⟨⟨Nat.zero_le _, Nat.add_le_add left.1.1.2 right.1.1.2⟩, ?_⟩, left.2, right.2⟩
  rw [Json.utf8, List.length_append]
  exact Utf8.accepts_append character?_stable left.1.2 right.1.2

theorem isText_mono (fine : isText minimum maximum bytes = true) (bound : bytes.length ≤ larger) :
    isText 0 larger bytes = true := by
  simp only [isText, Bool.and_eq_true, decide_eq_true_eq] at fine ⊢
  exact ⟨⟨⟨Nat.zero_le _, bound⟩, fine.1.2⟩, fine.2⟩

theorem isText_widen (fine : isText 0 maximum bytes = true) (bound : maximum ≤ larger) :
    isText 0 larger bytes = true := by
  refine isText_mono fine (Nat.le_trans ?_ bound)
  simp only [isText, Bool.and_eq_true, decide_eq_true_eq] at fine
  exact fine.1.1.2

/-! ## Rejections along runs -/

/--
A request of the client whose error is readable: the codec of the client
makes the transaction and the name of the proxy, and the name of the user has
no control characters and is short enough with that of the proxy.
-/
def Mild : Event → Prop
  | .handleVisitor visitor _ user _ _ _ =>
    isText 1 64 visitor.transactionId = true ∧ isText 1 128 visitor.proxyName = true ∧
      isText 0 128 user = true ∧
      user.length + visitor.proxyName.length ≤ 217
  | .handleClient client _ _ _ => isText 1 64 client.transactionId = true
  | _ => True

/-- The errors of the checks of certificates and addresses are readable. -/
structure Terse (services : Services) : Prop where
  certificate : ∀ role certificate spki text,
    services.validateCertificate role certificate spki = some text →
    isText 0 256 text = true
  address : ∀ addresses localAddresses text,
    services.classifyNatFeature addresses localAddresses = some text →
    isText 0 220 text = true

theorem plainTexts_isText : ∀ text ∈ plainTexts, isText 0 256 text = true := by
  decide

theorem reason_isText (reason : Reason services visitor user text) (terse : Terse services)
    (proxy : isText 1 128 visitor.proxyName = true) (name : isText 0 128 user = true)
    (short : user.length + visitor.proxyName.length ≤ 217) : isText 0 256 text = true := by
  cases reason with
  | plain known => exact plainTexts_isText text known
  | missing =>
    exact isText_widen (isText_append (isText_append
      (show isText 0 17 (ascii "xtcp server for [") = true by
        decide) (isText_mono proxy (Nat.le_refl _)))
      (show isText 0 15 (ascii "] doesn't exist") = true by decide)) (by omega)
  | notAllowed =>
    exact isText_widen (isText_append (isText_append (isText_append (isText_append
        (show isText 0 19 (ascii "xtcp visitor user [") = true by
          decide) (isText_mono name (Nat.le_refl _)))
      (show isText 0 19 (ascii "] not allowed for [") = true by
        decide)) (isText_mono proxy (Nat.le_refl _)))
      (show isText 0 1 (ascii "]") = true by decide)) (by omega)
  | certificate refused => exact terse.certificate _ _ _ _ refused

theorem analysis_isText (terse : Terse services)
    (failed : analysis services session client now = .error error) : isText 0 256 error = true := by
  have binding := plainTexts_isText errBinding (by simp [plainTexts])
  rw [analysis] at failed
  split at failed
  next refused =>
    cases failed
    exact isText_widen (isText_append
      (show isText 0 35 (ascii "classify client nat feature error: ") =
        true by decide) (terse.address _ _ _ refused)) (by omega)
  split at failed
  next refused =>
    cases failed
    exact isText_widen (isText_append
      (show isText 0 36 (ascii "classify visitor nat feature error: ") =
        true by decide) (terse.address _ _ _ refused)) (by omega)
  repeat' split at failed
  all_goals cases failed
  all_goals exact binding

/-- What is known of an answer with an error. -/
structure Readable (response : Response) : Prop where
  transactionId : isText 1 64 response.transactionId = true
  error : isText 0 256 response.error = true
  plain : response = genNatHoleResponse response.transactionId response.error

theorem sent_readable {services : Services} {events : List Event}
    (terse : Terse services) (mild : ∀ event ∈ events, Mild event)
    {sent : Sent} (inside : sent ∈ (run services {} events).sent)
    (present : sent.response.error ≠ []) : Readable sent.response := by
  have issued := issued_run services events
  cases issuer : sent.issuer with
  | none =>
    have replied := issued.sent sent inside
    rw [issuer] at replied
    obtain ⟨_, _, _, _, _, event, id, reason⟩ := replied.submitted
    obtain ⟨transaction, proxy, name, short⟩ := mild _ event
    exact ⟨id ▸ transaction, reason_isText reason terse proxy name short, replied.response⟩
  | some pair =>
    obtain ⟨handler, client, transporter, now, held, set, _, _, chosen⟩ := issued.made inside issuer
    have sound := issued.sound _ handler held
    obtain ⟨_, _, _, _, _, _, visited⟩ := sound.vouched.submitted
    obtain ⟨_, _, _, answered⟩ := (sound.answered client transporter set).submitted
    have visitorId := (mild _ visited.mem).1
    have clientId := mild _ answered.mem
    cases analysed : analysis services handler.session client now with
    | ok =>
      rw [responsesOf, analysed] at chosen
      rw [analysis] at analysed
      repeat' split at analysed
      all_goals cases analysed
      rcases pair with ⟨ref, _ | _⟩
      · exact absurd (by rw [chosen.2]) present
      · exact absurd (by rw [chosen.2]) present
    | error =>
      have fine := analysis_isText terse analysed
      rw [responsesOf, analysed] at chosen
      rcases pair with ⟨ref, _ | _⟩
      · rw [chosen.2]
        exact ⟨clientId, fine, rfl⟩
      rw [chosen.2]
      exact ⟨visitorId, fine, rfl⟩

/-- A control without proxies, and a visitor of the proxy `p`. -/
def sampleServices : Services := ⟨fun _ => .filled 1 32, fun _ _ _ => none, fun _ _ => none⟩

/-- A visitor of a proxy with a long name. -/
def longVisitor : Visitor :=
  { sampleVisitor (.filled 1 32) with
    proxyName := List.replicate 128 0x70 }

/-- An error that is longer than the client takes. -/
theorem codecResponse_long (named : transactionId ≠ []) (long : 256 < error.length)
    (read : parse text = some (document (genNatHoleResponse transactionId error))) :
    codecResponse parse accepted .message (0 :: 22 :: text) = none := by
  have present : error ≠ [] := by
    rintro rfl
    exact absurd long (by decide)
  have refused : copyText (some (rejection transactionId error)) "error" 0 256 = none := by
    refine if_neg ?_
    simp [isText, Nat.not_le.mpr long]
  have behind : List.drop 2 (0 :: 22 :: text) = text := rfl
  rw [codecResponse, behind, read, document_rejection named present]
  dsimp only
  rw [refused]
  split
  · rfl
  split
  · rfl
  split
  next nothing => cases nothing
  · rfl

end EspFrp.NatHole
