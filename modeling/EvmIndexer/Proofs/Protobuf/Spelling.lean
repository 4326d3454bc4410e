import EvmIndexer.Proofs.Rlp.RoundTrip
import EvmIndexer.Protobuf.Wire
import Mathlib.Data.Nat.Log

/-!
# What spells the records of a message

A message has many spellings. A number may be written with more digits than it
needs, and bits beyond the 64th may be set. Between any two records there may be
groups, inside which there may be records and groups again, and nothing of a
group is left when it has been read. `Spells` says which bytes spell which
records, and reading gets the records back from every spelling.

A group makes the reader remember that it is inside, so the statement that goes
through the induction is about a stack of open groups and about the bytes behind
the spelling: whatever is read there, the records of the spelling come before it
at the outermost level, and are dropped at every other.

The shortest spelling is what is usually written. `writeAll` writes it.
-/

namespace EvmIndexer.Protobuf

/-! ## Numbers -/

/-- The digits of a number to the base 128, least significant first, as so many
bytes. All but the last have their high bit set. -/
def writeGroups : Nat → Nat → Bytes
  | 0, _ => []
  | 1, n => [UInt8.ofNat n]
  | width + 2, n =>
    UInt8.ofNat (128 + n % 128) :: writeGroups (width + 1) (n / 128)

theorem writeGroups_ne_nil {width : Nat} (h : 0 < width) (n : Nat) :
    writeGroups width n ≠ [] := by
  match width with
  | 1 | width + 2 => exact List.cons_ne_nil _ _

theorem readGroups_writeGroups {width limit n : Nat} (hwidth : 0 < width)
    (hlimit : width ≤ limit) (hn : n < 128 ^ width) (rest : Bytes) :
    readGroups limit (writeGroups width n ++ rest) = some (n, rest) := by
  induction width, n using writeGroups.induct generalizing limit with
  | case1 n => omega
  | case2 n =>
      obtain ⟨limit, rfl⟩ : ∃ k, limit = k + 1 := ⟨limit - 1, by omega⟩
      have hbyte : (UInt8.ofNat n).toNat = n := by
        rw [UInt8.toNat_ofNat']
        omega
      rw [writeGroups, List.singleton_append, readGroups, hbyte, if_pos (by omega)]
  | case3 width n ih =>
      obtain ⟨limit, rfl⟩ : ∃ k, limit = k + 1 := ⟨limit - 1, by omega⟩
      have hbyte : (UInt8.ofNat (128 + n % 128)).toNat = 128 + n % 128 := by
        rw [UInt8.toNat_ofNat']
        omega
      have hhigh : n / 128 < 128 ^ (width + 1) := by
        rw [Nat.pow_succ] at hn
        exact Nat.div_lt_of_lt_mul (by rwa [Nat.mul_comm])
      have hvalue : (128 + n % 128) % 128 + 128 * (n / 128) = n := by omega
      rw [writeGroups, List.cons_append, readGroups, hbyte, if_neg (by omega),
        ih (by omega) (by omega) hhigh]
      simp only [Option.bind_eq_bind, Option.bind_some, hvalue]
      rfl

/-- Whether bytes spell a 64-bit number. -/
def SpellsVarint (n : Nat) (bs : Bytes) : Prop :=
  ∃ width digits, 0 < width ∧ width ≤ 10 ∧ digits < 128 ^ width ∧
    n = digits % 0x10000000000000000 ∧ bs = writeGroups width digits

/-- Whether bytes spell the tag of a field and a kind of payload. -/
def SpellsTag (number kind : Nat) (bs : Bytes) : Prop :=
  ∃ width, 0 < width ∧ width ≤ 5 ∧ 8 * number + kind < 128 ^ width ∧
    8 * number + kind < 0x100000000 ∧ 0 < number ∧ kind < 8 ∧
    bs = writeGroups width (8 * number + kind)

theorem SpellsVarint.read {n : Nat} {bs : Bytes} (h : SpellsVarint n bs)
    (rest : Bytes) : readVarint (bs ++ rest) = some (n, rest) := by
  obtain ⟨width, digits, hpos, hwidth, hdigits, rfl, rfl⟩ := h
  rw [readVarint, readGroups_writeGroups hpos hwidth hdigits]
  rfl

theorem SpellsTag.read {number kind : Nat} {bs : Bytes}
    (h : SpellsTag number kind bs) (rest : Bytes) :
    readTag (bs ++ rest) = some (number, kind, rest) := by
  obtain ⟨width, hpos, hwidth, hdigits, hfits, hnumber, hkind, rfl⟩ := h
  have hquotient : (8 * number + kind) / 8 = number := by omega
  have hremainder : (8 * number + kind) % 8 = kind := by omega
  rw [readTag, readGroups_writeGroups hpos hwidth hdigits]
  simp only [Option.bind_eq_bind, Option.bind_some, hquotient, hremainder]
  rw [if_neg (by omega)]

theorem SpellsTag.exists_cons {number kind : Nat} {bs : Bytes}
    (h : SpellsTag number kind bs) : ∃ b tail, bs = b :: tail := by
  obtain ⟨width, hpos, -, -, -, -, -, rfl⟩ := h
  exact List.exists_cons_of_ne_nil (writeGroups_ne_nil hpos _)

/-! ## Payloads -/

/-- The number that stands for the kind of a payload in a tag. -/
def Payload.kind : Payload → Nat
  | .varint _ => 0
  | .fixed64 _ => 1
  | .bytes _ => 2
  | .fixed32 _ => 5

/-- Whether bytes spell a payload, its tag left aside. -/
inductive SpellsPayload : Payload → Bytes → Prop
  | varint {n bs} (hn : SpellsVarint n bs) : SpellsPayload (.varint n) bs
  | fixed64 {content} (hlength : content.length = 8) :
    SpellsPayload (.fixed64 content) content
  | bytes {content bs} (hlength : SpellsVarint content.length bs) :
    SpellsPayload (.bytes content) (bs ++ content)
  | fixed32 {content} (hlength : content.length = 4) :
    SpellsPayload (.fixed32 content) content

theorem SpellsPayload.read {payload : Payload} {bs : Bytes}
    (h : SpellsPayload payload bs) (rest : Bytes) :
    readPayload payload.kind (bs ++ rest) = some (payload, rest) := by
  cases h with
  | varint hn =>
      rw [Payload.kind, readPayload, hn.read]
      rfl
  | fixed64 hlength =>
      rw [Payload.kind, readPayload, ← hlength, Rlp.splitAt?_append]
      rfl
  | bytes hlength =>
      rw [Payload.kind, readPayload, readDelimited, List.append_assoc, hlength.read]
      simp only [Option.bind_eq_bind, Option.bind_some, Rlp.splitAt?_append]
      rfl
  | fixed32 hlength =>
      rw [Payload.kind, readPayload, ← hlength, Rlp.splitAt?_append]
      rfl

theorem Payload.kind_ne_group (payload : Payload) :
    payload.kind ≠ 3 ∧ payload.kind ≠ 4 := by
  cases payload <;> exact ⟨nofun, nofun⟩

theorem Payload.kind_lt (payload : Payload) : payload.kind < 8 := by
  cases payload <;> simp [kind]

/-! ## Messages -/

/-- Whether bytes spell the records of a message. A group stands between them and
leaves nothing behind. -/
inductive Spells : List Record → Bytes → Prop
  | nil : Spells [] []
  | record {record records tag content rest}
      (htag : SpellsTag record.number record.payload.kind tag)
      (hcontent : SpellsPayload record.payload content)
      (hrest : Spells records rest) :
    Spells (record :: records) (tag ++ (content ++ rest))
  | group {number opening closing dropped inner records rest}
      (hopening : SpellsTag number 3 opening) (hinner : Spells dropped inner)
      (hclosing : SpellsTag number 4 closing) (hrest : Spells records rest) :
    Spells records (opening ++ (inner ++ (closing ++ rest)))

section Steps

variable {number kind steps : Nat} {groups : List Nat} {tag : Bytes}

theorem readRecords_tag (htag : SpellsTag number kind tag) (rest : Bytes) :
    readRecords (steps + 1) groups (tag ++ rest) =
      if kind = 3 then readRecords steps (number :: groups) rest
      else if kind = 4 then
        match groups with
        | [] => none
        | group :: outer =>
          if group = number then readRecords steps outer rest else none
      else do
        let (payload, rest) ← readPayload kind rest
        let records ← readRecords steps groups rest
        return if groups.isEmpty then ⟨number, payload⟩ :: records else records := by
  have hread := htag.read rest
  obtain ⟨b, tail, rfl⟩ := htag.exists_cons
  rw [List.cons_append] at hread ⊢
  rw [readRecords, hread]
  rfl

theorem readRecords_opening (htag : SpellsTag number 3 tag) (rest : Bytes) :
    readRecords (steps + 1) groups (tag ++ rest) =
      readRecords steps (number :: groups) rest := by
  rw [readRecords_tag htag, if_pos rfl]

theorem readRecords_closing (htag : SpellsTag number 4 tag) (rest : Bytes) :
    readRecords (steps + 1) (number :: groups) (tag ++ rest) =
      readRecords steps groups rest := by
  rw [readRecords_tag htag, if_neg nofun, if_pos rfl]
  exact if_pos rfl

theorem readRecords_record {payload : Payload} {content : Bytes}
    (htag : SpellsTag number payload.kind tag)
    (hcontent : SpellsPayload payload content) (rest : Bytes) :
    readRecords (steps + 1) groups (tag ++ (content ++ rest)) =
      (readRecords steps groups rest).map fun records =>
        if groups.isEmpty then ⟨number, payload⟩ :: records else records := by
  rw [readRecords_tag htag, if_neg payload.kind_ne_group.1,
    if_neg payload.kind_ne_group.2, hcontent.read]
  simp only [Option.bind_eq_bind, Option.bind_some]
  cases readRecords steps groups rest <;> rfl

end Steps

/-- Reading a spelling gives its records at the outermost level and nothing
inside a group, and goes on behind it. -/
theorem Spells.readRecords {records : List Record} {bs : Bytes}
    (h : Spells records bs) {groups : List Nat} {rest : Bytes}
    {tail : List Record} (hrest : ∀ steps, rest.length ≤ steps →
      Protobuf.readRecords steps groups rest = some tail)
    (steps : Nat) (hsteps : (bs ++ rest).length ≤ steps) :
    Protobuf.readRecords steps groups (bs ++ rest) =
      some (if groups.isEmpty then records ++ tail else tail) := by
  induction h generalizing groups rest tail steps with
  | nil =>
      rw [List.nil_append] at hsteps ⊢
      rw [hrest steps hsteps, List.nil_append, ite_self]
  | @record record records tag content _ htag hcontent _ ih =>
      obtain ⟨b, more, htail⟩ := htag.exists_cons
      simp only [htail, List.length_append, List.length_cons] at hsteps
      obtain ⟨steps, rfl⟩ : ∃ k, steps = k + 1 := ⟨steps - 1, by omega⟩
      rw [List.append_assoc, List.append_assoc, readRecords_record htag hcontent,
        ih hrest steps (by rw [List.length_append]; omega), Option.map_some]
      cases groups <;> rfl
  | @group number opening closing _ inner records after hopening _ hclosing _ ih
      ih' =>
      obtain ⟨b, more, htail⟩ := hopening.exists_cons
      simp only [htail, List.length_append, List.length_cons] at hsteps
      obtain ⟨steps, rfl⟩ : ∃ k, steps = k + 1 := ⟨steps - 1, by omega⟩
      -- behind the closing tag the group is off the stack
      have hclosed : ∀ steps, (closing ++ (after ++ rest)).length ≤ steps →
          Protobuf.readRecords steps (number :: groups)
            (closing ++ (after ++ rest)) =
              some (if groups.isEmpty then records ++ tail else tail) := by
        intro steps hsteps
        obtain ⟨c, more, htail⟩ := hclosing.exists_cons
        simp only [htail, List.length_append, List.length_cons] at hsteps
        obtain ⟨steps, rfl⟩ : ∃ k, steps = k + 1 := ⟨steps - 1, by omega⟩
        rw [readRecords_closing hclosing]
        exact ih' hrest steps (by rw [List.length_append]; omega)
      have hinner := ih hclosed steps (by simp only [List.length_append]; omega)
      simp only [List.append_assoc]
      rw [readRecords_opening hopening, hinner]
      rfl

/-- Reading gets the records back from every spelling. -/
theorem Spells.records? {records : List Record} {bs : Bytes}
    (h : Spells records bs) : Protobuf.records? bs = some records := by
  have hnil : ∀ steps, ([] : Bytes).length ≤ steps →
      Protobuf.readRecords steps [] [] = some [] := by
    intro steps _
    cases steps <;> rfl
  have hread := h.readRecords hnil bs.length (by simp)
  rw [List.append_nil, List.append_nil] at hread
  exact hread

/-! ## The shortest spelling -/

def writeVarint (n : Nat) : Bytes := writeGroups (Nat.log 128 n + 1) n

def Payload.write : Payload → Bytes
  | .varint n => writeVarint n
  | .fixed64 content | .fixed32 content => content
  | .bytes content => writeVarint content.length ++ content

def Record.write (record : Record) : Bytes :=
  writeVarint (8 * record.number + record.payload.kind) ++ record.payload.write

def writeAll (records : List Record) : Bytes := records.flatMap Record.write

/-- Whether a payload can be written. -/
def Payload.Fits : Payload → Prop
  | .varint n => n < 0x10000000000000000
  | .fixed64 content => content.length = 8
  | .bytes content => content.length < 0x10000000000000000
  | .fixed32 content => content.length = 4

/-- Whether a record can be written: the number of its field has at most 29
bits. -/
def Record.Fits (record : Record) : Prop :=
  0 < record.number ∧ record.number < 0x20000000 ∧ record.payload.Fits

instance : (payload : Payload) → Decidable payload.Fits
  | .varint n => inferInstanceAs (Decidable (n < 0x10000000000000000))
  | .fixed64 content => inferInstanceAs (Decidable (content.length = 8))
  | .bytes content =>
    inferInstanceAs (Decidable (content.length < 0x10000000000000000))
  | .fixed32 content => inferInstanceAs (Decidable (content.length = 4))

instance (record : Record) : Decidable record.Fits :=
  inferInstanceAs (Decidable (_ ∧ _ ∧ _))

theorem log_lt {n width : Nat} (hwidth : 0 < width) (hn : n < 128 ^ width) :
    Nat.log 128 n + 1 ≤ width := by
  rcases Nat.eq_zero_or_pos n with rfl | hpos
  · rw [Nat.log_zero_right]
    omega
  · exact Nat.log_lt_of_lt_pow hpos.ne' hn

theorem spellsVarint_writeVarint {n : Nat} (h : n < 0x10000000000000000) :
    SpellsVarint n (writeVarint n) :=
  ⟨_, n, Nat.succ_pos _, log_lt (by decide) (Nat.lt_trans h (by decide)),
    Nat.lt_pow_succ_log_self (by decide) n, (Nat.mod_eq_of_lt h).symm, rfl⟩

theorem spellsTag_writeVarint {number kind : Nat} (hpos : 0 < number)
    (hnumber : number < 0x20000000) (hkind : kind < 8) :
    SpellsTag number kind (writeVarint (8 * number + kind)) :=
  have hfits : 8 * number + kind < 0x100000000 := by omega
  ⟨_, Nat.succ_pos _, log_lt (by decide) (Nat.lt_trans hfits (by decide)),
    Nat.lt_pow_succ_log_self (by decide) _, hfits, hpos, hkind, rfl⟩

theorem spellsPayload_write {payload : Payload} (h : payload.Fits) :
    SpellsPayload payload payload.write := by
  cases payload with
  | varint n => exact .varint (spellsVarint_writeVarint h)
  | fixed64 content => exact .fixed64 h
  | bytes content => exact .bytes (spellsVarint_writeVarint h)
  | fixed32 content => exact .fixed32 h

theorem spells_writeAll {records : List Record} (h : ∀ r ∈ records, r.Fits) :
    Spells records (writeAll records) := by
  induction records with
  | nil => exact .nil
  | cons r rest ih =>
      obtain ⟨hpos, hnumber, hpayload⟩ := h r List.mem_cons_self
      have hrest := ih fun r' hr' => h r' (List.mem_cons_of_mem r hr')
      have htag := spellsTag_writeVarint hpos hnumber r.payload.kind_lt
      have hspells := Spells.record htag (spellsPayload_write hpayload) hrest
      rwa [← List.append_assoc] at hspells

end EvmIndexer.Protobuf
