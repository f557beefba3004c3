import EspFrp.Binding.Manifest

/-!
# The encoding of a manifest is canonical

Both sides accept the same manifests, write the same bytes for them and read
the same manifests back, so that a proof computed by one side over its
encoding is a proof over the encoding of the other.
-/

namespace EspFrp.Binding

variable (value : UInt64) (fields : List Identifier)

open Library

/-! ## What both sides accept -/

theorem any_isControl {name : List UInt8} (plain : ¬name.any isControl = true) :
    ∀ byte ∈ name, byte ≠ 0 := by
  intro byte member zero
  refine plain (List.any_eq_true.mpr ⟨byte, member, ?_⟩)
  rw [zero]
  rfl

theorem foldlM_fields (head : List UInt8) : fields.foldlM (fun out field =>
          if nonzero field.cells then some (out ++ field.cells)
          else none)
        head =
      if fields.all (fun field => nonzero field.cells) then
        some (head ++ (fields.map Block.cells).flatten)
      else
        none := by
  induction fields generalizing head with
  | nil => simp
  | cons field _ later =>
    by_cases present : nonzero field.cells = true
    · simp [present, later]
    · simp [present]

/-- The server encodes the manifests that the client accepts. -/
theorem Server.encode_eq (manifest : Manifest) : Server.encode manifest =
      if shape manifest = .ok then
        some (makeSpans manifest).flatten
      else
        none := by
  by_cases plain : manifest.proxyName.any isControl = true
  · simp [Server.encode, shape, plain]
  have nameText := Json.utf8_eq_wellFormed (any_isControl plain)
  simp only [Server.encode, shape, plain, nameText, foldlM_fields,
    Nat.lt_one_iff, maxLifetimeSeconds, proxyMaxBytes]
  split_ifs <;> simp_all [makeSpans]

/-! ## What both sides read -/

/-- The header of a manifest, as both sides check it. -/
def Framed (wire : List UInt8) : Prop :=
  250 ≤ wire.length ∧ wire.length ≤ manifestMaxBytes ∧
    wire.take 8 = manifestMagic ∧ (wire.getD 8 0).toNat ≠ 0 ∧
      (wire.getD 8 0).toNat ≤ proxyMaxBytes ∧ wire.length = 249 + (wire.getD 8 0).toNat

/-- The fields of a framed manifest. -/
def readFields (wire : List UInt8) : Manifest :=
  let offset := 9 + (wire.getD 8 0).toNat
  { proxyName := (wire.drop 9).take (wire.getD 8 0).toNat
    sid := copyField wire offset
    providerControl := copyField wire (offset + 32)
    visitorControl := copyField wire (offset + 64)
    providerNonce := copyField wire (offset + 96)
    visitorNonce := copyField wire (offset + 128)
    providerSpki := copyField wire (offset + 160)
    visitorSpki := copyField wire (offset + 192)
    issuedAt := loadU64 ((wire.drop (offset + 224)).take 8)
    expiresAt := loadU64 ((wire.drop (offset + 232)).take 8) }

/-- The manifest is valid at the time. -/
def Current (manifest : Manifest) (now : UInt64) : Prop :=
  shape manifest = .ok ∧ manifest.issuedAt ≤ now ∧ now < manifest.expiresAt

theorem validate_ok_iff : validate manifest now = .ok ↔ Current manifest now := by
  unfold validate Current
  split_ifs with misshapen outside
  · exact ⟨fun accepted => (misshapen accepted).elim, fun current => (misshapen current.1).elim⟩
  · refine ⟨nofun, fun current => ?_⟩
    rcases outside with early | late
    · exact (UInt64.not_lt.mpr current.2.1 early).elim
    · exact (UInt64.not_le.mpr current.2.2 late).elim
  · simp only [not_or, UInt64.not_lt, UInt64.not_le] at outside
    exact ⟨fun _ => ⟨not_not.mp misshapen, outside⟩, fun _ => rfl⟩

theorem framed_iff : ¬(wire.length < 250 ∨ manifestMaxBytes < wire.length ∨
        wire.take 8 ≠ manifestMagic ∨ (wire.getD 8 0).toNat = 0 ∨
        proxyMaxBytes < (wire.getD 8 0).toNat ∨
        wire.length ≠ 249 + (wire.getD 8 0).toNat) ↔
      Framed wire := by
  simp only [Framed, not_or, Nat.not_lt, ne_eq, not_not]

theorem decode_ok_iff : decode wire now = .ok manifest ↔
      Framed wire ∧ readFields wire = manifest ∧
        Current manifest now := by
  by_cases framed : Framed wire
  · rw [decode, if_neg (framed_iff.mpr framed)]
    dsimp only
    constructor
    · intro accepted
      split at accepted
      · next checked =>
        cases accepted
        exact ⟨framed, rfl, validate_ok_iff.mp checked⟩
      · cases accepted
      · cases accepted
    · rintro ⟨-, rfl, current⟩
      have valid := validate_ok_iff.mpr current
      split
      · rfl
      · next invalid =>
        have impossible := invalid.symm.trans valid
        cases impossible
      · next invalid _ => exact (invalid valid).elim
  · have decode_eq : decode wire now = .error .protocolError :=
      if_pos (not_not.mp fun good => framed (framed_iff.mp good))
    rw [decode_eq]
    constructor
    · intro accepted
      cases accepted
    · intro accepted
      exact (framed accepted.1).elim

theorem Server.decode_some_iff : Server.decode wire now = some manifest ↔
      Framed wire ∧ readFields wire = manifest ∧
        Current manifest now := by
  have rejected : (Server.encode (readFields wire)).isNone = true ↔
        ¬shape (readFields wire) = .ok := by
    rw [Server.encode_eq]
    split_ifs with accepted <;> simp [accepted]
  by_cases framed : Framed wire
  · have decode_eq : Server.decode wire now =
          if (Server.encode (readFields wire)).isNone ∨ now < (readFields wire).issuedAt ∨
              (readFields wire).expiresAt ≤ now then
            none
          else
            some (readFields wire) :=
      if_neg (framed_iff.mpr framed)
    rw [decode_eq]
    split_ifs with outside
    · refine ⟨nofun, ?_⟩
      rintro ⟨-, rfl, shaped, early, late⟩
      rcases outside with bad | bad | bad
      · exact (rejected.mp bad shaped).elim
      · exact (UInt64.not_lt.mpr early bad).elim
      · exact (UInt64.not_le.mpr late bad).elim
    · simp only [not_or, rejected, not_not, UInt64.not_lt, UInt64.not_le] at outside
      constructor
      · intro accepted
        cases accepted
        exact ⟨framed, rfl, outside⟩
      · rintro ⟨-, rfl, -⟩
        rfl
  · have decode_eq : Server.decode wire now = none :=
      if_pos (not_not.mp fun good => framed (framed_iff.mp good))
    rw [decode_eq]
    constructor
    · intro accepted
      cases accepted
    · intro accepted
      exact (framed accepted.1).elim

/-! ## Round trips -/

theorem copyField_head (field : Identifier) (rest : List UInt8) :
    copyField (field.cells ++ rest) 0 = field := by
  have source : ((field.cells ++ rest).drop 0).take 32 = field.cells :=
    List.take_left' field.cells_length
  unfold copyField
  rw [source]
  refine Block.ext ?_
  rw [Block.copy_full _ (by rw [field.cells_length]), List.take_zero, List.nil_append]

theorem copyField_add (wire : List UInt8) (offset more : Nat) :
    copyField wire (offset + more) = copyField (wire.drop offset) more := by
  unfold copyField
  rw [List.drop_drop]

/-- The fields of a manifest stand next to each other. -/
theorem copyField_fields {fields : List Identifier}
    (rest : List UInt8) (found : fields[index]? = some field) :
    copyField ((fields.map Block.cells).flatten ++ rest) (32 * index) = field := by
  induction fields generalizing index with
  | nil => cases found
  | cons head others later =>
    rw [List.map_cons, List.flatten_cons, List.append_assoc]
    cases index with
    | zero =>
      cases found
      exact copyField_head _ _
    | succ index =>
      have skipped := copyField_add (head.cells ++ ((others.map Block.cells).flatten ++ rest))
        32 (32 * index)
      rw [List.drop_left' head.cells_length] at skipped
      rw [Nat.mul_succ, Nat.add_comm, skipped]
      exact later found

theorem copyField_cells {offset : Nat} (inside : offset + 32 ≤ wire.length) :
    (copyField wire offset).cells = (wire.drop offset).take 32 := by
  have length : ((wire.drop offset).take 32).length = 32 := by
    rw [List.length_take, List.length_drop]
    omega
  unfold copyField
  rw [Block.copy_full _ (by rw [length]), List.take_zero, List.nil_append]

theorem loadU64_storeU64 : loadU64 (storeU64 value) = value := by
  unfold loadU64 storeU64
  rw [BigEndian.ofBytes_toBytes_of_lt value.toNat_lt, UInt64.ofNat_toNat]

theorem storeU64_loadU64 {bytes : List UInt8} (length : bytes.length = 8) :
    storeU64 (loadU64 bytes) = bytes := by
  have bound := BigEndian.ofBytes_lt bytes
  rw [length] at bound
  unfold loadU64 storeU64
  rw [UInt64.toNat_ofNat_of_lt' bound, BigEndian.toBytes_ofBytes_of_length length]

/-- The encoding: the name, the fields and the times. -/
theorem flatten_makeSpans (manifest : Manifest) : (makeSpans manifest).flatten =
      manifestMagic ++ ([UInt8.ofNat manifest.proxyName.length] ++ (manifest.proxyName ++
          ((manifest.fields.map Block.cells).flatten ++ (storeU64 manifest.issuedAt ++
              storeU64 manifest.expiresAt)))) := by
  simp [makeSpans]

theorem length_fields : (fields.map Block.cells).flatten.length = 32 * fields.length := by
  induction fields with
  | nil => rfl
  | cons field _ later =>
    rw [List.map_cons, List.flatten_cons, List.length_append,
      field.cells_length, later, List.length_cons]
    omega

theorem length_storeU64 : (storeU64 value).length = 8 := BigEndian.toBytes_length 8 value.toNat

section

variable (shaped : shape manifest = .ok)
include shaped

theorem shape_name : manifest.proxyName.length ≠ 0 ∧ manifest.proxyName.length ≤ proxyMaxBytes := by
  unfold shape at shaped
  split_ifs at shaped with bad
  simp only [not_or, Nat.not_lt] at bad
  exact ⟨bad.1, bad.2.1⟩

theorem framed_flatten : Framed (makeSpans manifest).flatten ∧
      ((makeSpans manifest).flatten.getD 8 0).toNat =
        manifest.proxyName.length := by
  obtain ⟨nonempty, short⟩ := shape_name shaped
  have nameByte : ((makeSpans manifest).flatten.getD 8 0).toNat =
        manifest.proxyName.length := by
    rw [flatten_makeSpans]
    simp only [manifestMagic, List.cons_append, List.nil_append,
      List.getD_cons_succ, List.getD_cons_zero]
    rw [UInt8.toNat_ofNat_of_lt']
    exact Nat.lt_of_le_of_lt short (by decide)
  refine ⟨?_, nameByte⟩
  have length : (makeSpans manifest).flatten.length = 249 + manifest.proxyName.length := by
    rw [flatten_makeSpans]
    simp only [List.length_append, length_fields, length_storeU64, manifestMagic, Manifest.fields,
      List.length_cons, List.length_nil]
    omega
  simp only [Framed, nameByte, length, manifestMaxBytes, proxyMaxBytes] at *
  refine ⟨by omega, by omega, ?_, nonempty, short, trivial⟩
  rw [flatten_makeSpans]
  rfl

/-- The fields of an encoding are those of the manifest. -/
theorem readFields_flatten : readFields (makeSpans manifest).flatten = manifest := by
  have nameByte := (framed_flatten shaped).2
  have afterMagic : (makeSpans manifest).flatten.drop 9 = manifest.proxyName ++
          ((manifest.fields.map Block.cells).flatten ++ (storeU64 manifest.issuedAt ++
              storeU64 manifest.expiresAt)) := by
    rw [flatten_makeSpans]
    rfl
  have afterName := congrArg (fun rest => rest.drop manifest.proxyName.length) afterMagic
  rw [List.drop_drop, List.drop_left] at afterName
  have field {index : Nat} {value : Identifier} (found : manifest.fields[index]? = some value) :
      copyField (makeSpans manifest).flatten
          (9 + manifest.proxyName.length + 32 * index) = value := by
    rw [copyField_add, afterName]
    exact copyField_fields _ found
  have afterFields : (makeSpans manifest).flatten.drop (9 + manifest.proxyName.length + 224) =
        storeU64 manifest.issuedAt ++ storeU64 manifest.expiresAt := by
    rw [← List.drop_drop, afterName]
    exact List.drop_left' (length_fields manifest.fields)
  have afterIssued : (makeSpans manifest).flatten.drop (9 + manifest.proxyName.length + 232) =
        storeU64 manifest.expiresAt := by
    rw [show 9 + manifest.proxyName.length + 232 = 9 + manifest.proxyName.length + 224 + 8 from rfl,
      ← List.drop_drop, afterFields]
    exact List.drop_left' (length_storeU64 _)
  unfold readFields
  rw [nameByte]
  dsimp only
  rw [afterMagic, afterFields, afterIssued, List.take_left, List.take_left' (length_storeU64 _),
    List.take_of_length_le (length_storeU64 _).le, loadU64_storeU64, loadU64_storeU64]
  rw [show copyField (makeSpans manifest).flatten
        (9 + manifest.proxyName.length) = manifest.sid from
      @field 0 _ rfl,
    show copyField (makeSpans manifest).flatten (9 + manifest.proxyName.length + 32) =
      manifest.providerControl from @field 1 _ rfl,
    show copyField (makeSpans manifest).flatten (9 + manifest.proxyName.length + 64) =
      manifest.visitorControl from @field 2 _ rfl,
    show copyField (makeSpans manifest).flatten (9 + manifest.proxyName.length + 96) =
      manifest.providerNonce from @field 3 _ rfl,
    show copyField (makeSpans manifest).flatten (9 + manifest.proxyName.length + 128) =
      manifest.visitorNonce from @field 4 _ rfl,
    show copyField (makeSpans manifest).flatten (9 + manifest.proxyName.length + 160) =
      manifest.providerSpki from @field 5 _ rfl,
    show copyField (makeSpans manifest).flatten (9 + manifest.proxyName.length + 192) =
      manifest.visitorSpki from @field 6 _ rfl]

end

theorem slice_append (wire : List UInt8) {offset count next : Nat}
    (next_eq : offset + count = next) :
    (wire.drop offset).take count ++ wire.drop next = wire.drop offset := by
  rw [← next_eq, ← List.drop_drop, List.take_append_drop]

/-- The encoding of the fields of a framed wire is the wire. -/
theorem flatten_readFields (framed : Framed wire) :
    (makeSpans (readFields wire)).flatten = wire := by
  obtain ⟨_, -, magic, -, -, length⟩ := framed
  have nameLength : ((wire.drop 9).take (wire.getD 8 0).toNat).length = (wire.getD 8 0).toNat := by
    rw [List.length_take, List.length_drop]
    omega
  have nameByte : [UInt8.ofNat ((wire.drop 9).take
        (wire.getD 8 0).toNat).length] = (wire.drop 8).take 1 := by
    have inside : 8 < wire.length := by omega
    rw [nameLength, UInt8.ofNat_toNat, List.getD_eq_getElem?_getD, List.getElem?_eq_getElem inside,
      Option.getD_some, List.drop_eq_getElem_cons inside]
    rfl
  generalize nameSize : (wire.getD 8 0).toNat = size at *
  have last : (wire.drop (9 + size + 232)).take 8 = wire.drop (9 + size + 232) := by
    refine List.take_of_length_le ?_
    rw [List.length_drop]
    omega
  have stored (offset : Nat) (fits : offset + 8 ≤ wire.length) :
      storeU64 (loadU64 ((wire.drop offset).take 8)) = (wire.drop offset).take 8 := by
    refine storeU64_loadU64 ?_
    rw [List.length_take, List.length_drop]
    omega
  rw [flatten_makeSpans]
  simp only [readFields, Manifest.fields, List.map_cons, List.map_nil, List.flatten_cons,
    List.flatten_nil, List.append_nil, List.append_assoc, nameSize]
  rw [copyField_cells (by omega), copyField_cells (by omega),
    copyField_cells (by omega), copyField_cells (by omega),
    copyField_cells (by omega), copyField_cells (by omega),
    copyField_cells (by omega), stored _ (by omega),
    stored _ (by omega), nameByte, ← magic, last,
    @slice_append wire (9 + size + 224) 8 (9 + size + 232) rfl,
    @slice_append wire (9 + size + 192) 32 (9 + size + 224) rfl,
    @slice_append wire (9 + size + 160) 32 (9 + size + 192) rfl,
    @slice_append wire (9 + size + 128) 32 (9 + size + 160) rfl,
    @slice_append wire (9 + size + 96) 32 (9 + size + 128) rfl,
    @slice_append wire (9 + size + 64) 32 (9 + size + 96) rfl,
    @slice_append wire (9 + size + 32) 32 (9 + size + 64) rfl,
    @slice_append wire (9 + size) 32 (9 + size + 32) rfl,
    @slice_append wire 9 size (9 + size) rfl,
    @slice_append wire 8 1 9 rfl, List.take_append_drop]

/-! ## Both codecs -/

theorem encode_ok_iff : encode manifest capacity = .ok wire ↔
      shape manifest = .ok ∧ 249 + manifest.proxyName.length ≤ capacity ∧
          (makeSpans manifest).flatten = wire := by
  unfold encode
  split_ifs with misshapen small
  · exact ⟨nofun, fun accepted => (misshapen accepted.1).elim⟩
  · exact ⟨nofun, fun accepted => by omega⟩
  simp only [Except.ok.injEq]
  exact ⟨fun same => ⟨not_not.mp misshapen, by omega, same⟩, fun accepted => accepted.2.2⟩

/-- What the two codecs of the manifest have to do with each other. -/
structure Canonical (hashing : Hashing) : Prop where
  /-- Both sides write the same bytes, and hash exactly them. -/
  encode_same : ∀ manifest capacity, 249 + manifest.proxyName.length ≤ capacity →
        (shape manifest = .ok ↔ ∃ wire, encode manifest capacity = .ok wire) ∧
          ∀ wire, encode manifest capacity = .ok wire → Server.encode manifest = some wire ∧
              Server.hash hashing.sha256 manifest = some (hashing.sha256 wire) ∧
              ∀ digest, hash hashing manifest = .ok digest → digest = hashing.sha256 wire
  /-- The client hashes every manifest it accepts, if the library does. -/
  hash_some : ∀ manifest, shape manifest = .ok → hashing.status (makeSpans manifest) = .ok →
        ∃ digest, hash hashing manifest = .ok digest
  /-- Both sides read the same manifests from the same bytes. -/
  decode_same : ∀ wire now manifest,
      decode wire now = .ok manifest ↔ Server.decode wire now = some manifest
  decode_encode : ∀ manifest capacity wire now, encode manifest capacity = .ok wire →
        manifest.issuedAt ≤ now → now < manifest.expiresAt → decode wire now = .ok manifest
  encode_decode : ∀ manifest capacity wire now, decode wire now = .ok manifest →
        249 + manifest.proxyName.length ≤ capacity → encode manifest capacity = .ok wire
  encode_injective : ∀ left right leftCapacity rightCapacity wire,
      encode left leftCapacity = .ok wire → encode right rightCapacity = .ok wire → left = right

/-- The encoding of the manifest is canonical and the same on both sides. -/
theorem manifest_canonical (hashing : Hashing) :
    Canonical hashing := by
  refine
    { encode_same := ?_
      hash_some := ?_
      decode_same := ?_
      decode_encode := ?_
      encode_decode := ?_
      encode_injective := ?_ }
  · intro manifest capacity large
    refine ⟨⟨fun shaped => ⟨_, encode_ok_iff.mpr ⟨shaped, large, rfl⟩⟩, ?_⟩, ?_⟩
    · rintro ⟨wire, encoded⟩
      exact (encode_ok_iff.mp encoded).1
    · intro wire encoded
      obtain ⟨shaped, -, rfl⟩ := encode_ok_iff.mp encoded
      have served : Server.encode manifest = some (makeSpans manifest).flatten := by
        rw [Server.encode_eq, if_pos shaped]
      refine ⟨served, by rw [Server.hash, served]; rfl, ?_⟩
      intro digest hashed
      unfold hash Hashing.hash at hashed
      rw [if_neg (not_not.mpr shaped)] at hashed
      split_ifs at hashed
      cases hashed
      rfl
  · intro manifest shaped available
    refine ⟨hashing.sha256 (makeSpans manifest).flatten, ?_⟩
    unfold hash Hashing.hash
    rw [if_neg (not_not.mpr shaped), if_pos available]
  · intro wire now manifest
    rw [decode_ok_iff, Server.decode_some_iff]
  · intro manifest capacity wire now encoded issued expires
    obtain ⟨shaped, -, rfl⟩ := encode_ok_iff.mp encoded
    exact decode_ok_iff.mpr ⟨(framed_flatten shaped).1,
      readFields_flatten shaped, shaped, issued, expires⟩
  · intro manifest capacity wire now decoded large
    obtain ⟨framed, rfl, current⟩ := decode_ok_iff.mp decoded
    exact encode_ok_iff.mpr ⟨current.1, large, flatten_readFields framed⟩
  · intro left right leftCapacity rightCapacity wire leftEncoded rightEncoded
    obtain ⟨leftShaped, -, rfl⟩ := encode_ok_iff.mp leftEncoded
    obtain ⟨rightShaped, -, same⟩ := encode_ok_iff.mp rightEncoded
    rw [← readFields_flatten leftShaped, ← same, readFields_flatten rightShaped]

end EspFrp.Binding
