import CertMint.Der.Reader
import CertMint.Proofs.Octets

/-! # DER read back

What was written is read as it was meant, whatever follows it: lengths of any size, values under any
tag of one octet, sequences of values, natural numbers, bits and object identifiers. `Reads` is the
fact that composes: octets that begin with one whole value, which is taken off them.
-/

namespace CertMint.Der

open Octets

/-! ## Lengths -/

private theorem takeCount_replicate (before more small : Nat) (rest : List UInt8) (h : small < 127) :
    takeCount before (List.replicate more 0xff ++ UInt8.ofNat (128 + small) :: rest) =
      some (before + 127 * more + small, rest) := by
  induction more generalizing before with
  | zero =>
      have octet : 128 + small < 256 := by omega
      have notLast : UInt8.ofNat (128 + small) ≠ 0xff := by
        rw [Ne, ofNat_eq_iff octet]
        exact Nat.ne_of_lt (Nat.add_lt_add_left h 128)
      have notShort : ¬ UInt8.ofNat (128 + small) < 0x80 := by
        rw [ofNat_lt_iff octet]
        omega
      simp only [List.replicate_zero, List.nil_append, takeCount, if_neg notLast, if_neg notShort,
        toNat_ofNat octet]
      exact congrArg some (Prod.ext (by simp) rfl)
  | succ more ih =>
      simp only [List.replicate_succ, List.cons_append, takeCount, if_true, ih]
      exact congrArg some (Prod.ext (by simp only; omega) rfl)

theorem takeCount_countOctets (before count : Nat) (rest : List UInt8) :
    takeCount before (countOctets count ++ rest) = some (before + count, rest) := by
  rw [countOctets, List.append_assoc, List.singleton_append,
    takeCount_replicate before _ _ rest (Nat.mod_lt _ (by omega))]
  exact congrArg some (Prod.ext (by simp only; omega) rfl)

/-- A count of octets is told from a short length by its first octet. -/
theorem countOctets_eq_cons (count : Nat) :
    ∃ b rest, countOctets count = b :: rest ∧ ¬ b < 0x80 := by
  cases more : count / 127 with
  | zero =>
      refine ⟨_, [], by rw [countOctets, more, List.replicate_zero, List.nil_append], ?_⟩
      rw [ofNat_lt_iff (by omega)]
      omega
  | succ more' =>
      refine ⟨0xff, _, by rw [countOctets, more, List.replicate_succ, List.cons_append], ?_⟩
      decide

/-- The first octet of a number in as many octets as it needs is not zero. -/
theorem head?_bigEndian_ne_zero {n : Nat} (h : 0 < byteLength n) :
    (bigEndian (byteLength n) n).head? ≠ some 0 := by
  obtain ⟨count, eq⟩ : ∃ count, byteLength n = count + 1 := ⟨byteLength n - 1, by omega⟩
  have low : 256 ^ count ≤ n := pow_le_of_byteLength eq
  have high : n < 256 ^ count * 256 := by
    have := lt_pow_byteLength n
    rwa [eq, Nat.pow_succ] at this
  have first : 0 < n / 256 ^ count := Nat.div_pos low (Nat.pow_pos (by omega))
  have octet : n / 256 ^ count < 256 := Nat.div_lt_of_lt_mul high
  rw [eq, bigEndian_succ, List.head?_cons]
  intro same
  have zero := (ofNat_eq_iff octet 0).mp (Option.some.inj same)
  exact Nat.ne_of_gt first zero

theorem takeLength_lengthOctets (n : Nat) (rest : List UInt8) :
    takeLength (lengthOctets n ++ rest) = some (n, rest) := by
  unfold lengthOctets
  split
  · next short =>
      have octet : n < 256 := by omega
      rw [List.singleton_append, takeLength, if_pos ((ofNat_lt_iff octet).mpr short), toNat_ofNat octet]
  · next long =>
      have some_ : 0 < byteLength n := by
        have := lt_pow_byteLength n
        by_contra none_
        rw [Nat.eq_zero_of_not_pos none_, Nat.pow_zero] at this
        omega
      obtain ⟨b, tail, eq, above⟩ := countOctets_eq_cons (byteLength n)
      have counted : takeCount 0 (b :: (tail ++ bigEndian (byteLength n) n ++ rest)) =
          some (byteLength n, bigEndian (byteLength n) n ++ rest) := by
        have := takeCount_countOctets 0 (byteLength n) (bigEndian (byteLength n) n ++ rest)
        rwa [eq, Nat.zero_add, List.cons_append, ← List.append_assoc] at this
      have digits : (bigEndian (byteLength n) n ++ rest).take (byteLength n) =
          bigEndian (byteLength n) n := List.take_left' (length_bigEndian _ _)
      have left : (bigEndian (byteLength n) n ++ rest).drop (byteLength n) = rest :=
        List.drop_left' (length_bigEndian _ _)
      rw [eq, List.cons_append, List.cons_append, takeLength, if_neg above, counted]
      simp only [Option.bind_eq_bind, Option.bind_some, digits, left, length_bigEndian,
        ofBigEndian_byteLength, Nat.ne_of_gt some_, Nat.lt_irrefl, head?_bigEndian_ne_zero some_,
        or_self, if_false, if_neg long]

/-! ## Values -/

/-- Whether a tag is one that stands in a single octet. -/
def PlainTag (tag : UInt8) : Prop := tag &&& 0x1f ≠ 0x1f

instance (tag : UInt8) : Decidable (PlainTag tag) := inferInstanceAs (Decidable (_ ≠ _))

/-- The value that is read where a content was written under a tag. -/
def Element.of (tag : UInt8) (content : List UInt8) : Element := ⟨tag, content, value tag content⟩

theorem length_value_of_lt {content : List UInt8} (tag : UInt8) (short : content.length < 128) :
    (value tag content).length = content.length + 2 := by
  rw [value, lengthOctets, if_pos short, List.cons_append, List.length_cons, List.singleton_append,
    List.length_cons]

/-- Octets that are one whole value, also when others follow. -/
structure Reads (octets : List UInt8) (e : Element) : Prop where
  nonempty : octets ≠ []
  take_eq : ∀ rest, take (octets ++ rest) = some (e, rest)

theorem reads_value {tag : UInt8} (plain : PlainTag tag) (content : List UInt8) :
    Reads (value tag content) (Element.of tag content) where
  nonempty := List.cons_ne_nil _ _
  take_eq rest := by
    have whole : (lengthOctets content.length ++ (content ++ rest)).length - (content ++ rest).length +
        content.length + 1 = (tag :: (lengthOctets content.length ++ content)).length := by
      simp only [List.length_append, List.length_cons]
      omega
    have enough : ¬ (content ++ rest).length < content.length := by
      rw [List.length_append]
      omega
    have raw : (tag :: (lengthOctets content.length ++ (content ++ rest))).take
        (tag :: (lengthOctets content.length ++ content)).length =
          tag :: (lengthOctets content.length ++ content) := by
      rw [← List.append_assoc, ← List.cons_append]
      exact List.take_left' rfl
    rw [value, List.append_assoc, List.cons_append, take, if_neg plain, takeLength_lengthOctets]
    simp only [if_neg enough, whole, raw, List.take_left, List.drop_left, Element.of, value]
    rfl

theorem single?_eq {octets : List UInt8} {e : Element} (h : Reads octets e) :
    single? octets = some e := by
  have taken := h.take_eq []
  rw [List.append_nil] at taken
  simp only [single?, taken, Option.bind_eq_bind, Option.bind_some, List.isEmpty_nil, if_true]

theorem takeAll_flatten {parts : List (List UInt8)} {es : List Element}
    (h : List.Forall₂ Reads parts es) {fuel : Nat} (room : parts.flatten.length ≤ fuel) :
    takeAll fuel parts.flatten = some es := by
  induction h generalizing fuel with
  | nil => simp only [List.flatten_nil, takeAll]
  | @cons part e parts es reads _ ih =>
      obtain ⟨b, tail, rfl⟩ := List.exists_cons_of_ne_nil reads.nonempty
      simp only [List.flatten_cons, List.length_append, List.length_cons] at room
      obtain ⟨less, rfl⟩ : ∃ less, fuel = less + 1 := ⟨fuel - 1, by omega⟩
      have taken := reads.take_eq parts.flatten
      rw [List.cons_append] at taken
      rw [List.flatten_cons, List.cons_append, takeAll, taken]
      · simp only [Option.bind_eq_bind, Option.bind_some, @ih less (by omega)]
        rfl
      · simp

/-- Values written one after the other are read as these values and nothing else. -/
theorem elements?_flatten {parts : List (List UInt8)} {es : List Element}
    (h : List.Forall₂ Reads parts es) : elements? parts.flatten = some es :=
  takeAll_flatten h (Nat.le_refl _)

/-- The value that is read where parts were written as a sequence. -/
def Element.ofParts (parts : List (List UInt8)) : Element := Element.of 0x30 parts.flatten

theorem reads_sequence (parts : List (List UInt8)) : Reads (sequence parts) (Element.ofParts parts) :=
  reads_value (by decide) _

theorem sequence?_ofParts {parts : List (List UInt8)} {es : List Element}
    (h : List.Forall₂ Reads parts es) : (Element.ofParts parts).sequence? = some es := by
  simp only [Element.sequence?, Element.tagged?, Element.ofParts, Element.of, if_true,
    Option.bind_eq_bind, Option.bind_some, elements?_flatten h]

/-! ## Numbers, bits and truth values -/

/-- The first octet of a natural number leaves its sign bit clear. -/
private theorem naturalContent_top (n : Nat) : n / 256 ^ (bitLength n / 8) < 128 := by
  have fits : n < 256 ^ (bitLength n / 8) * 128 := by
    have power : 256 ^ (bitLength n / 8) * 128 = 2 ^ (8 * (bitLength n / 8) + 7) := by
      rw [Nat.pow_add, Nat.pow_mul]
    rw [power]
    exact Nat.lt_of_lt_of_le (lt_two_pow_bitLength n) (Nat.pow_le_pow_right Nat.two_pos (by omega))
  exact Nat.div_lt_of_lt_mul fits

/-- A natural number has a zero octet first only where its next octet needs it. -/
private theorem naturalContent_second {n count : Nat} (long : bitLength n / 8 = count + 1)
    (zero : n / 256 ^ (count + 1) = 0) : 128 ≤ n / 256 ^ count ∧ n / 256 ^ count < 256 := by
  obtain ⟨bits, eq⟩ : ∃ bits, bitLength n = bits + 1 := ⟨bitLength n - 1, by omega⟩
  have low : 128 * 256 ^ count ≤ n := by
    have power : 128 * 256 ^ count = 2 ^ (8 * count + 7) := by
      rw [Nat.pow_add, Nat.pow_mul, Nat.mul_comm]
    rw [power]
    exact Nat.le_trans (Nat.pow_le_pow_right Nat.two_pos (by omega)) (two_pow_le_of_bitLength eq)
  have high : n < 256 ^ count * 256 := by
    rw [← Nat.pow_succ]
    exact (Nat.div_eq_zero_iff_lt (Nat.pow_pos (by omega))).mp zero
  exact ⟨(Nat.le_div_iff_mul_le (Nat.pow_pos (by omega))).mpr low, Nat.div_lt_of_lt_mul high⟩

theorem ofBigEndian_naturalContent (n : Nat) : ofBigEndian (naturalContent n) = n := by
  have wide : 2 ^ bitLength n ≤ 2 ^ (8 * (bitLength n / 8 + 1)) :=
    Nat.pow_le_pow_right Nat.two_pos (by omega)
  rw [Nat.pow_mul] at wide
  rw [naturalContent, ofBigEndian_bigEndian,
    Nat.mod_eq_of_lt (Nat.lt_of_lt_of_le (lt_two_pow_bitLength n) wide)]

theorem integer?_of_naturalContent (n : Nat) :
    (Element.of 0x02 (naturalContent n)).integer? = some (n : Int) := by
  have top := naturalContent_top n
  have whole := ofBigEndian_naturalContent n
  have octet : n / 256 ^ (bitLength n / 8) < 256 := by omega
  have first := toNat_ofNat octet
  have positive := (ofNat_lt_iff octet).mpr top
  have notAll : UInt8.ofNat (n / 256 ^ (bitLength n / 8)) ≠ 0xff := by
    intro same
    rw [same] at positive
    exact absurd positive (by decide)
  simp only [Element.integer?, Element.tagged?, Element.of, if_true, Option.bind_eq_bind,
    Option.bind_some]
  cases count : bitLength n / 8 with
  | zero =>
      rw [count, Nat.pow_zero, Nat.div_one] at first positive
      have content : naturalContent n = [UInt8.ofNat n] := by
        rw [naturalContent, count, bigEndian_succ, bigEndian, Nat.pow_zero, Nat.div_one]
      simp only [content, if_pos positive, first]
  | succ less =>
      rw [count] at first positive notAll
      have content : naturalContent n = UInt8.ofNat (n / 256 ^ (less + 1)) ::
          UInt8.ofNat (n / 256 ^ less) :: bigEndian less n := by
        rw [naturalContent, count, bigEndian_succ, bigEndian_succ]
      have needed : ¬ (UInt8.ofNat (n / 256 ^ (less + 1)) = 0 ∧ UInt8.ofNat (n / 256 ^ less) < 0x80) := by
        rintro ⟨zero, small⟩
        have none_ : n / 256 ^ (less + 1) = 0 := by
          rw [← first, zero]
          rfl
        obtain ⟨low, high⟩ := naturalContent_second count none_
        rw [ofNat_lt_iff high] at small
        omega
      rw [content] at whole
      simp only [content, needed, notAll, false_and, or_self, if_false, if_pos positive, whole]

theorem natural?_of_naturalContent (n : Nat) :
    (Element.of 0x02 (naturalContent n)).natural? = some n := by
  simp only [Element.natural?, integer?_of_naturalContent, Option.bind_eq_bind, Option.bind_some,
    Int.natCast_nonneg, if_true, Int.toNat_natCast]

theorem bits?_of (octets : List UInt8) : (Element.of 0x03 (0 :: octets)).bits? = some octets := rfl

theorem isBits_of (octets : List UInt8) : (Element.of 0x03 (0 :: octets)).isBits = true := by
  cases octets with
  | nil => rfl
  | cons b rest =>
      cases last : (b :: rest).getLast? with
      | none => simp at last
      | some b' => simp [Element.isBits, Element.of, last, Nat.mod_one]

theorem boolean?_of (b : Bool) :
    (Element.of 0x01 [if b then 0xff else 0x00]).boolean? = some b := by
  cases b <;> rfl

/-! ## Object identifiers -/

private theorem takeArcs_leading {fuel n : Nat} (room : n < 2 ^ fuel) (rest : List UInt8) :
    takeArcs none (arcOctets.leading fuel n ++ rest) =
      takeArcs (if n = 0 then none else some n) rest := by
  induction fuel generalizing n rest with
  | zero =>
      obtain rfl : n = 0 := by omega
      rfl
  | succ fuel ih =>
      rw [arcOctets.leading]
      split
      · rfl
      · next some_ =>
          have octet : 128 + n % 128 < 256 := by omega
          have goesOn : ¬ UInt8.ofNat (128 + n % 128) < 0x80 := by
            rw [ofNat_lt_iff octet]
            omega
          have started : ¬ ((if n / 128 = 0 then none else some (n / 128)) = none ∧
              UInt8.ofNat (128 + n % 128) = 0x80) := by
            rintro ⟨first, empty⟩
            have zero : n / 128 = 0 := by
              by_contra above
              simp only [if_neg above, reduceCtorEq] at first
            have bits : 128 + n % 128 = 128 := (ofNat_eq_iff octet 0x80).mp empty
            omega
          have sum : (if n / 128 = 0 then none else some (n / 128)).getD 0 * 128 +
              (128 + n % 128) % 128 = n := by
            split <;> simp only [Option.getD_none, Option.getD_some] <;> omega
          rw [List.append_assoc, List.singleton_append, ih (by omega), takeArcs, if_neg started,
            toNat_ofNat octet, sum, if_neg goesOn]

theorem takeArcs_arcOctets (n : Nat) (rest : List UInt8) :
    takeArcs none (arcOctets n ++ rest) = (takeArcs none rest).map (n :: ·) := by
  have octet : n % 128 < 256 := by omega
  have last : UInt8.ofNat (n % 128) < 0x80 := by
    rw [ofNat_lt_iff octet]
    omega
  have filled : UInt8.ofNat (n % 128) ≠ 0x80 := by
    intro same
    rw [same] at last
    exact absurd last (by decide)
  have room : n / 128 < 2 ^ bitLength n :=
    Nat.lt_of_le_of_lt (Nat.div_le_self n 128) (lt_two_pow_bitLength n)
  have sum : (if n / 128 = 0 then none else some (n / 128)).getD 0 * 128 + n % 128 % 128 = n := by
    split <;> simp only [Option.getD_none, Option.getD_some] <;> omega
  rw [arcOctets, List.append_assoc, List.singleton_append, takeArcs_leading room, takeArcs,
    if_neg (fun h => filled h.2), toNat_ofNat octet, sum, if_pos last]

theorem takeArcs_flatMap (arcs : List Nat) : takeArcs none (arcs.flatMap arcOctets) = some arcs := by
  induction arcs with
  | nil => rfl
  | cons n arcs ih => rw [List.flatMap_cons, takeArcs_arcOctets, ih, Option.map_some]

/-- Whether arcs are those of an object identifier: two or more, the first at most 2, and the second
    below 40 unless the first is 2. -/
def Oid.Valid : Oid → Prop
  | a :: b :: _ => a ≤ 2 ∧ (a < 2 → b < 40)
  | _ => False

instance : (o : Oid) → Decidable o.Valid
  | _ :: _ :: _ => inferInstanceAs (Decidable (_ ∧ _))
  | [] => isFalse id
  | [_] => isFalse id

theorem oid?_of {o : Oid} (valid : o.Valid) : (Element.of 0x06 (oidContent o)).oid? = some o := by
  match o, valid with
  | a :: b :: rest, ⟨first, second⟩ =>
      have split_ : min ((40 * a + b) / 40) 2 = a := by omega
      have other : 40 * a + b - 40 * a = b := by omega
      simp only [Element.oid?, Element.tagged?, Element.of, oidContent, if_true, Option.bind_eq_bind,
        Option.bind_some, takeArcs_arcOctets, takeArcs_flatMap, Option.map_some, split_, other]

end CertMint.Der
