import Mathlib.Algebra.Group.Nat.Defs
import Mathlib.Data.List.Basic

/-!
# Length-prefixed records

A record is a payload behind its length, which takes `width` bytes with the
lowest one first.  Records are written one after another with nothing between
them, so that a reader who starts at the first byte finds each in turn.

Zero bytes read as empty records: in a file that is filled up with zeros the
trailing empty payloads are not told from the filling, and nothing else is lost.
-/

namespace Library

/-! ## Numbers in bytes -/

/-- The `width` low bytes of a number, the lowest first. -/
def littleEndianBytes : Nat → Nat → List UInt8
  | 0, _ => []
  | width + 1, value =>
      UInt8.ofNat value :: littleEndianBytes width (value / 256)

def fromLittleEndian : List UInt8 → Nat
  | [] => 0
  | byte :: bytes => byte.toNat + 256 * fromLittleEndian bytes

@[simp]
theorem length_littleEndianBytes (width value : Nat) :
    (littleEndianBytes width value).length = width := by
  induction width generalizing value with
  | zero =>
      rfl
  | succ width inductionHypothesis =>
      rw [littleEndianBytes, List.length_cons, inductionHypothesis]

theorem fromLittleEndian_littleEndianBytes
    {width value : Nat} (fits : value < 256 ^ width) :
    fromLittleEndian (littleEndianBytes width value) = value := by
  induction width generalizing value with
  | zero =>
      rw [Nat.pow_zero, Nat.lt_one_iff] at fits
      rw [fits]
      rfl
  | succ width inductionHypothesis =>
      have higher : value / 256 < 256 ^ width := by
        apply Nat.div_lt_of_lt_mul
        rwa [Nat.pow_succ, Nat.mul_comm] at fits
      rw [littleEndianBytes, fromLittleEndian, inductionHypothesis higher,
        UInt8.toNat_ofNat']
      exact Nat.mod_add_div value 256

theorem littleEndianBytes_zero (width : Nat) :
    littleEndianBytes width 0 = List.replicate width 0 := by
  induction width with
  | zero =>
      rfl
  | succ width inductionHypothesis =>
      rw [littleEndianBytes, Nat.zero_div, inductionHypothesis,
        List.replicate_succ]
      rfl

/-! ## Records -/

def record (width : Nat) (payload : List UInt8) : List UInt8 :=
  littleEndianBytes width payload.length ++ payload

def records (width : Nat) (payloads : List (List UInt8)) : List UInt8 :=
  payloads.flatMap (record width)

/-- The first record of the bytes, and what is behind it. -/
def takeRecord (width : Nat) (bytes : List UInt8) :
    Option (List UInt8 × List UInt8) :=
  let length := fromLittleEndian (bytes.take width)
  let behind := bytes.drop width
  if width ≤ bytes.length ∧ length ≤ behind.length then
    some (behind.take length, behind.drop length)
  else
    none

/-- The payloads of the records that the bytes consist of. -/
def parseRecords (width : Nat) (bytes : List UInt8) :
    Option (List (List UInt8)) :=
  if bytes = [] then
    some []
  else
    match takeRecord width bytes with
    | none => none
    | some (payload, behind) =>
        -- a record without any bytes would be read for ever
        if behind.length < bytes.length then
          (parseRecords width behind).map (payload :: ·)
        else
          none
termination_by bytes.length

section Reading

variable {width : Nat} {payload : List UInt8}
  {payloads first second : List (List UInt8)}

@[simp]
theorem length_record :
    (record width payload).length = width + payload.length := by
  rw [record, List.length_append, length_littleEndianBytes]

@[simp]
theorem records_nil : records width [] = [] :=
  rfl

@[simp]
theorem records_cons :
    records width (payload :: payloads) =
      record width payload ++ records width payloads :=
  List.flatMap_cons

theorem records_append :
    records width (first ++ second) =
      records width first ++ records width second :=
  List.flatMap_append

theorem records_concat :
    records width (payloads ++ [payload]) =
      records width payloads ++ record width payload := by
  rw [records_append, records_cons, records_nil, List.append_nil]

theorem length_le_records (member : payload ∈ payloads) :
    payload.length ≤ (records width payloads).length := by
  induction payloads with
  | nil =>
      cases member
  | cons other payloads inductionHypothesis =>
      rw [records_cons, List.length_append, length_record]
      rcases List.mem_cons.mp member with rfl | later
      · omega
      · have := inductionHypothesis later
        omega

/-- A record is read back, whatever is behind it. -/
theorem takeRecord_record
    (fits : payload.length < 256 ^ width) (behind : List UInt8) :
    takeRecord width (record width payload ++ behind) =
      some (payload, behind) := by
  have prefixed :
      (record width payload ++ behind).take width =
        littleEndianBytes width payload.length := by
    rw [record, List.append_assoc]
    exact List.take_left' (length_littleEndianBytes _ _)
  have rest :
      (record width payload ++ behind).drop width = payload ++ behind := by
    rw [record, List.append_assoc]
    exact List.drop_left' (length_littleEndianBytes _ _)
  have inside : width ≤ (record width payload ++ behind).length := by
    rw [List.length_append, length_record, Nat.add_assoc]
    exact Nat.le_add_right _ _
  have enough : payload.length ≤ (payload ++ behind).length := by
    rw [List.length_append]
    exact Nat.le_add_right _ _
  simp only [takeRecord, prefixed, rest,
    fromLittleEndian_littleEndianBytes fits]
  rw [if_pos ⟨inside, enough⟩, List.take_left' rfl, List.drop_left' rfl]

/-- Reading the records back consumes them exactly. -/
theorem parseRecords_records
    (positive : 0 < width)
    (fits : ∀ payload ∈ payloads, payload.length < 256 ^ width) :
    parseRecords width (records width payloads) = some payloads := by
  induction payloads with
  | nil =>
      rw [records_nil, parseRecords, if_pos rfl]
  | cons payload payloads inductionHypothesis =>
      obtain ⟨fitsFirst, fitsRest⟩ := List.forall_mem_cons.mp fits
      have longer :
          (records width payloads).length <
            (record width payload ++ records width payloads).length := by
        rw [List.length_append, length_record]
        omega
      have present : record width payload ++ records width payloads ≠ [] := by
        intro empty
        rw [empty] at longer
        cases longer
      rw [records_cons, parseRecords, if_neg present,
        takeRecord_record fitsFirst]
      simp only [if_pos longer, inductionHypothesis fitsRest,
        Option.map_some]

/-- What is read from bytes that begin with a record begins with its payload. -/
theorem head?_of_parseRecords
    (fits : payload.length < 256 ^ width) {behind : List UInt8}
    (parsed :
      parseRecords width (record width payload ++ behind) =
        some payloads)
    (present : record width payload ++ behind ≠ []) :
    payloads.head? = some payload := by
  rw [parseRecords, if_neg present, takeRecord_record fits] at parsed
  simp only at parsed
  split at parsed
  · obtain ⟨rest, _, rfl⟩ := Option.map_eq_some_iff.mp parsed
    rfl
  · cases parsed

end Reading

/-! ## Records in a file filled up with zeros -/

section Filling

variable {width : Nat}

theorem record_nil : record width [] = List.replicate width 0 := by
  rw [record, List.length_nil, littleEndianBytes_zero, List.append_nil]

theorem records_replicate_nil (count : Nat) :
    records width (List.replicate count []) =
      List.replicate (count * width) 0 := by
  induction count with
  | zero =>
      rw [Nat.zero_mul]
      rfl
  | succ count inductionHypothesis =>
      rw [List.replicate_succ, records_cons, record_nil,
        inductionHypothesis, List.replicate_append_replicate,
        Nat.succ_mul, Nat.add_comm]

/-- Only empty payloads are written as zeros. -/
theorem eq_nil_of_record_zero
    {payload : List UInt8} (fits : payload.length < 256 ^ width)
    (zero : ∀ byte ∈ record width payload, byte = 0) :
    payload = [] := by
  have lengthZero :
      littleEndianBytes width payload.length = littleEndianBytes width 0 := by
    rw [littleEndianBytes_zero]
    apply List.eq_replicate_iff.mpr
    refine ⟨length_littleEndianBytes _ _, ?_⟩
    intro byte member
    exact zero byte (List.mem_append_left _ member)
  have same := congrArg fromLittleEndian lengthZero
  rw [fromLittleEndian_littleEndianBytes fits,
    fromLittleEndian_littleEndianBytes (Nat.pow_pos (by decide))] at same
  exact List.eq_nil_of_length_eq_zero same

/-- The payloads are the same but for empty ones at the end. -/
def SameUpToEmpty (first second : List (List UInt8)) : Prop :=
  ∃ firstCount secondCount,
    first ++ List.replicate firstCount [] =
      second ++ List.replicate secondCount []

theorem SameUpToEmpty.symm
    {first second : List (List UInt8)} (same : SameUpToEmpty first second) :
    SameUpToEmpty second first := by
  obtain ⟨firstCount, secondCount, equal⟩ := same
  exact ⟨secondCount, firstCount, equal.symm⟩

/-- Payloads whose records cannot be told from the filling. -/
theorem sameUpToEmpty_nil_of_zero
    {payloads : List (List UInt8)}
    (fits : ∀ payload ∈ payloads, payload.length < 256 ^ width)
    {behind : List UInt8} {count : Nat}
    (zero : records width payloads ++ behind = List.replicate count 0) :
    SameUpToEmpty payloads [] := by
  have empty : payloads = List.replicate payloads.length [] := by
    apply List.eq_replicate_iff.mpr
    refine ⟨rfl, ?_⟩
    intro payload member
    apply eq_nil_of_record_zero (fits payload member)
    intro byte inRecord
    have present : byte ∈ List.replicate count (0 : UInt8) := by
      rw [← zero]
      apply List.mem_append_left
      exact List.mem_flatMap.mpr ⟨payload, member, inRecord⟩
    exact List.eq_of_mem_replicate present
  refine ⟨0, payloads.length, ?_⟩
  rw [List.replicate_zero, List.append_nil, List.nil_append]
  exact empty

/-- A filled file tells its payloads up to empty ones at the end. -/
theorem sameUpToEmpty_of_filled
    {first second : List (List UInt8)}
    (fitsFirst : ∀ payload ∈ first, payload.length < 256 ^ width)
    (fitsSecond : ∀ payload ∈ second, payload.length < 256 ^ width)
    {firstCount secondCount : Nat}
    (same :
      records width first ++ List.replicate firstCount 0 =
        records width second ++ List.replicate secondCount 0) :
    SameUpToEmpty first second := by
  induction first generalizing second with
  | nil =>
      exact (sameUpToEmpty_nil_of_zero fitsSecond same.symm).symm
  | cons payload first inductionHypothesis =>
      cases second with
      | nil =>
          exact sameUpToEmpty_nil_of_zero fitsFirst same
      | cons other second =>
          obtain ⟨fitsPayload, fitsFirst⟩ :=
            List.forall_mem_cons.mp fitsFirst
          obtain ⟨fitsOther, fitsSecond⟩ :=
            List.forall_mem_cons.mp fitsSecond
          rw [records_cons, records_cons, List.append_assoc,
            List.append_assoc] at same
          have taken := congrArg (takeRecord width) same
          rw [takeRecord_record fitsPayload, takeRecord_record fitsOther,
            Option.some.injEq, Prod.mk.injEq] at taken
          obtain ⟨samePayload, sameRest⟩ := taken
          obtain ⟨firstEmpty, secondEmpty, equal⟩ :=
            inductionHypothesis fitsFirst fitsSecond sameRest
          refine ⟨firstEmpty, secondEmpty, ?_⟩
          rw [samePayload, List.cons_append, equal, List.cons_append]

/-- Zeros behind a list, cut or continued to another number of them. -/
private theorem append_zeros_of_longer
    {bytes : List UInt8} {more count : Nat} (enough : count ≤ more) :
    (bytes ++ List.replicate more 0).take (bytes.length + count) =
      bytes ++ List.replicate count 0 := by
  rw [List.take_length_add_append, List.take_replicate,
    Nat.min_eq_left enough]

theorem filled_of_sameUpToEmpty
    {first second : List (List UInt8)}
    (same : SameUpToEmpty first second)
    {firstCount secondCount : Nat}
    (lengths :
      (records width first).length + firstCount =
        (records width second).length + secondCount) :
    records width first ++ List.replicate firstCount 0 =
      records width second ++ List.replicate secondCount 0 := by
  obtain ⟨firstEmpty, secondEmpty, equal⟩ := same
  have written := congrArg (records width) equal
  rw [records_append, records_append, records_replicate_nil,
    records_replicate_nil] at written
  have longer :=
    congrArg (· ++ List.replicate (firstCount + secondCount) (0 : UInt8))
      written
  simp only [List.append_assoc, List.replicate_append_replicate] at longer
  have firstEnough :
      firstCount ≤ firstEmpty * width + (firstCount + secondCount) := by
    omega
  have secondEnough :
      secondCount ≤ secondEmpty * width + (firstCount + secondCount) := by
    omega
  rw [← append_zeros_of_longer firstEnough,
    ← append_zeros_of_longer secondEnough, longer, lengths]

end Filling

end Library
