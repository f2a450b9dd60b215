import CertMint.Mint.Rendering
import CertMint.Proofs.Blocks

/-! # Reading PEM

What a text of blocks in PEM consists of: a line opens a block, a line closes it, and between them there is
nothing but lines of Base64, all of one length up to the last. A strict reader gives back the octets of all
blocks, so such a text is a text of no other blocks. A fixture that is not described is written as the
blocks of its certificates.
-/

namespace CertMint.Text

/-! ## Base64 -/

namespace Base64

theorem value?_digit {n : Nat} (small : n < 64) : value? (digit n) = some n := by
  have all : ∀ n < 64, value? (digit n) = some n := by decide
  exact all n small

theorem digit_ne_pad {n : Nat} (small : n < 64) : digit n ≠ '=' := by
  intro same
  have value := value?_digit small
  rw [same] at value
  cases value

/-- Octets are written as one digit for each six bits, with whatever alphabet, and pads up to a multiple of
    four. -/
theorem exists_encodeWith_eq (octets : List UInt8) :
    ∃ ns : List Nat, (∀ n ∈ ns, n < 64) ∧ ns.length = (8 * octets.length + 5) / 6 ∧
      ∀ digit : Nat → Char, encodeWith digit octets =
        ns.map digit ++ List.replicate ((3 - octets.length % 3) % 3) '=' := by
  induction octets using encodeWith.induct with
  | case1 => exact ⟨[], by simp, rfl, fun _ => rfl⟩
  | case2 a =>
      have boundA := a.toNat_lt
      refine ⟨[a.toNat * 16 / 64, a.toNat * 16 % 64], ?_, by simp, fun _ => rfl⟩
      simp only [List.forall_mem_cons]
      exact ⟨by omega, by omega, by simp⟩
  | case3 a b =>
      let n := (a.toNat * 256 + b.toNat) * 4
      have boundA := a.toNat_lt
      have boundB := b.toNat_lt
      refine ⟨[n / 4096, n / 64 % 64, n % 64], ?_, by simp, fun _ => rfl⟩
      simp only [List.forall_mem_cons]
      exact ⟨by omega, by omega, by omega, by simp⟩
  | case4 a b c rest ih =>
      let n := (a.toNat * 256 + b.toNat) * 256 + c.toNat
      have boundA := a.toNat_lt
      have boundB := b.toNat_lt
      have boundC := c.toNat_lt
      obtain ⟨ns, small, count, eq⟩ := ih
      refine ⟨n / 262144 :: n / 4096 % 64 :: n / 64 % 64 :: n % 64 :: ns, ?_, ?_, ?_⟩
      · simp only [List.forall_mem_cons]
        exact ⟨by omega, by omega, by omega, by omega, small⟩
      · simp only [List.length_cons]
        omega
      · intro digit
        have pads : (rest.length + 1 + 1 + 1) % 3 = rest.length % 3 := by omega
        simp only [encodeWith, eq, List.length_cons, pads]
        rfl

/-- Characters of Base64 are digits and pads, with whatever alphabet. -/
theorem mem_encodeWith {digit : Nat → Char} {octets : List UInt8} {c : Char}
    (member : c ∈ encodeWith digit octets) : c = '=' ∨ ∃ n < 64, c = digit n := by
  obtain ⟨ns, small, -, eq⟩ := exists_encodeWith_eq octets
  rw [eq] at member
  rcases List.mem_append.mp member with isDigit | isPad
  · obtain ⟨n, inside, rfl⟩ := List.mem_map.mp isDigit
    exact .inr ⟨n, small n inside, rfl⟩
  · exact .inl (List.eq_of_mem_replicate isPad)

theorem not_mem_encodeWith {digit : Nat → Char} {c : Char} (notPad : c ≠ '=')
    (notDigit : ∀ n < 64, c ≠ digit n) (octets : List UInt8) : c ∉ encodeWith digit octets := by
  intro member
  rcases mem_encodeWith member with pad | ⟨n, small, same⟩
  · exact notPad pad
  · exact notDigit n small same

theorem decode?_encode (octets : List UInt8) : decode? (encode octets) = some octets := by
  unfold encode
  fun_induction encodeWith digit octets with
  | case1 => rfl
  | case2 a n =>
      have boundA := a.toNat_lt
      have first : (n / 64 * 64 + n % 64) / 16 = a.toNat := by omega
      simp [decode?, value?_digit (show n / 64 < 64 by omega), value?_digit (show n % 64 < 64 by omega),
        first]
  | case3 a b n =>
      have boundA := a.toNat_lt
      have boundB := b.toNat_lt
      have first : ((n / 4096 * 64 + n / 64 % 64) * 64 + n % 64) / 1024 = a.toNat := by omega
      have second : ((n / 4096 * 64 + n / 64 % 64) * 64 + n % 64) / 4 % 256 = b.toNat := by omega
      rw [decode?]
      · simp [value?_digit (show n / 4096 < 64 by omega), value?_digit (show n / 64 % 64 < 64 by omega),
          value?_digit (show n % 64 < 64 by omega), first, second]
      · exact digit_ne_pad (by omega)
  | case4 a b c rest n ih =>
      have boundA := a.toNat_lt
      have boundB := b.toNat_lt
      have boundC := c.toNat_lt
      have whole : ((n / 262144 * 64 + n / 4096 % 64) * 64 + n / 64 % 64) * 64 + n % 64 = n := by omega
      have first : n / 65536 = a.toNat := by omega
      have second : n / 256 % 256 = b.toNat := by omega
      have third : n % 256 = c.toNat := by omega
      -- the last of the four digits is no pad, so they are not the end
      have unpadded := digit_ne_pad (show n % 64 < 64 by omega)
      rw [decode?]
      · simp only [value?_digit (show n / 262144 < 64 by omega), value?_digit (show n / 4096 % 64 < 64 by omega),
          value?_digit (show n / 64 % 64 < 64 by omega), value?_digit (show n % 64 < 64 by omega), ih,
          Option.bind_eq_bind, Option.bind_some, Option.pure_def, whole, first, second, third,
          UInt8.ofNat_toNat]
      · intro _ pad
        exact absurd pad unpadded
      · intro pad
        exact absurd pad unpadded

/-- What is read as Base64 has no other characters than digits and pads. -/
theorem isSome_value?_of_decode? {cs : List Char} {octets : List UInt8} (decoded : decode? cs = some octets) :
    ∀ c ∈ cs, c = '=' ∨ (value? c).isSome = true := by
  have known {c : Char} {n : Nat} (value : value? c = some n) : c = '=' ∨ (value? c).isSome = true :=
    .inr (by rw [value]; rfl)
  induction cs using decode?.induct generalizing octets with
  | case1 => simp
  | case2 a b =>
      simp only [decode?, Option.bind_eq_bind, Option.bind_eq_some_iff] at decoded
      obtain ⟨_, first, _, second, -⟩ := decoded
      simp [known first, known second]
  | case3 a b c unpadded =>
      simp only [decode?, Option.bind_eq_bind, Option.bind_eq_some_iff] at decoded
      obtain ⟨_, first, _, second, _, third, -⟩ := decoded
      simp [known first, known second, known third]
  | case4 a b c d rest unpadded unpadded' ih =>
      simp only [decode?, Option.bind_eq_bind, Option.bind_eq_some_iff] at decoded
      obtain ⟨_, first, _, second, _, third, _, fourth, _, others, -⟩ := decoded
      simp only [List.forall_mem_cons]
      exact ⟨known first, known second, known third, known fourth, ih others⟩
  | case5 cs => simp [decode?] at decoded

end Base64

/-! ## Lines -/

open Ini

/-- The lines of a text, without their ends. -/
def linesOf (text : String) : List String :=
  (splitLines [] text.toList).map fun line => String.ofList (line.filter (· ≠ '\n'))

theorem linesOf_textOf {lines : List String} (plain : ∀ line ∈ lines, OneLine line) :
    linesOf (textOf lines) = lines := by
  rw [linesOf, splitLines_textOf plain, List.map_map]
  conv => rhs; rw [← List.map_id lines]
  apply List.map_congr_left
  intro line member
  have kept : line.toList.filter (· ≠ '\n') = line.toList := by
    apply List.filter_eq_self.mpr
    intro c inside
    have other : c ≠ '\n' := fun same => (plain line member).2 (same ▸ inside)
    simpa using other
  have ended : (line ++ "\n").toList.filter (· ≠ '\n') = line.toList := by
    rw [String.toList_append, List.filter_append, kept]
    exact List.append_nil _
  exact (congrArg String.ofList ended).trans String.ofList_toList

/-! ## Blocks -/

namespace Pem

variable {label : String} {octets : List UInt8} {blocks blocks' : List (List UInt8)} {body lines lines' : List String}

def opening (label : String) : String := "-----BEGIN " ++ label ++ "-----"

def closing (label : String) : String := "-----END " ++ label ++ "-----"

theorem oneLine_opening (oneLine : OneLine label) : OneLine (opening label) :=
  (OneLine.append ⟨by decide, by decide⟩ oneLine).append ⟨by decide, by decide⟩

theorem oneLine_closing (oneLine : OneLine label) : OneLine (closing label) :=
  (OneLine.append ⟨by decide, by decide⟩ oneLine).append ⟨by decide, by decide⟩

/-- Lines of one length, up to the last, which may be shorter but is not empty. -/
inductive Wrapped (width : Nat) : List String → Prop
  | nil : Wrapped width []
  | last {line : String} : 1 ≤ line.length → line.length ≤ width → Wrapped width [line]
  | cons {line next : String} {rest : List String} : line.length = width → Wrapped width (next :: rest) →
      Wrapped width (line :: next :: rest)

/-- Lines that are blocks with these octets, one after the other, and nothing else. Inside a block there are
    no lines only where there are no octets. -/
inductive Armored (label : String) : List (List UInt8) → List String → Prop
  | nil : Armored label [] []
  | block {octets : List UInt8} {body : List String} {blocks : List (List UInt8)} {rest : List String} :
      Wrapped 64 body → Base64.decode? (body.flatMap String.toList) = some octets →
      Armored label blocks rest →
      Armored label (octets :: blocks) (opening label :: (body ++ closing label :: rest))

/-! ### Reading -/

/-- Read lines as blocks, with the characters of the block that is open. -/
def readBlocks? (label : String) : Option (List Char) → List String → Option (List (List UInt8))
  | none, [] => some []
  | some _, [] => none
  | none, line :: rest => if line = opening label then readBlocks? label (some []) rest else none
  | some held, line :: rest =>
    if line = closing label then do
      let octets ← Base64.decode? held
      return octets :: (← readBlocks? label none rest)
    else readBlocks? label (some (held ++ line.toList)) rest

/-- Read a text as blocks and nothing else. -/
def blocks? (label text : String) : Option (List (List UInt8)) := readBlocks? label none (linesOf text)

/-- A line inside a block is no boundary. -/
theorem plain_of_body (label : String) (decoded : Base64.decode? (body.flatMap String.toList) = some octets) :
    ∀ line ∈ body, OneLine line ∧ line ≠ closing label := by
  intro line member
  have absent (c : Char) (other : c ≠ '=' ∧ Base64.value? c = none) : c ∉ line.toList := by
    intro inside
    have known := Base64.isSome_value?_of_decode? decoded c (List.mem_flatMap.mpr ⟨line, member, inside⟩)
    simp [other] at known
  refine ⟨⟨absent _ (by decide), absent _ (by decide)⟩, ?_⟩
  rintro rfl
  have dash : '-' ∉ (closing label).toList := absent _ (by decide)
  simp [closing] at dash

theorem readBlocks?_body {held : List Char} (apart : ∀ line ∈ body, line ≠ closing label)
    (decoded : Base64.decode? (held ++ body.flatMap String.toList) = some octets) (rest : List String) :
    readBlocks? label (some held) (body ++ closing label :: rest) =
      (readBlocks? label none rest).map (octets :: ·) := by
  induction body generalizing held with
  | nil =>
      rw [List.flatMap_nil, List.append_nil] at decoded
      cases read : readBlocks? label none rest <;> simp [readBlocks?, decoded, read]
  | cons line body ih =>
      obtain ⟨first, others⟩ := List.forall_mem_cons.mp apart
      rw [List.flatMap_cons, ← List.append_assoc] at decoded
      rw [List.cons_append, readBlocks?, if_neg first, ih others decoded]

namespace Armored

theorem oneLine (h : Armored label blocks lines) (plain : OneLine label) : ∀ line ∈ lines, OneLine line := by
  induction h with
  | nil => simp
  | block _ decoded _ ih =>
      have inside := plain_of_body label decoded
      simp only [List.mem_cons, List.mem_append]
      rintro line (rfl | member | rfl | after)
      · exact oneLine_opening plain
      · exact (inside line member).1
      · exact oneLine_closing plain
      · exact ih line after

theorem readBlocks?_eq (h : Armored label blocks lines) : readBlocks? label none lines = some blocks := by
  induction h with
  | nil => rfl
  | block _ decoded _ ih =>
      have apart := fun line member => (plain_of_body label decoded line member).2
      rw [readBlocks?, if_pos rfl, readBlocks?_body apart decoded, ih]
      rfl

theorem blocks?_eq (h : Armored label blocks lines) (plain : OneLine label) :
    blocks? label (textOf lines) = some blocks := by
  rw [blocks?, linesOf_textOf (h.oneLine plain), h.readBlocks?_eq]

/-- A text is of the blocks that it is of, and of no others. -/
theorem unique (h : Armored label blocks lines) (h' : Armored label blocks' lines') (plain : OneLine label)
    (same : textOf lines = textOf lines') : blocks = blocks' := by
  have read := h.blocks?_eq plain
  rw [same, h'.blocks?_eq plain] at read
  exact (Option.some.inj read).symm

end Armored

/-! ### Writing -/

theorem Wrapped.length_pos {width : Nat} {line : String} {rest : List String} (h : Wrapped width (line :: rest))
    (positive : 0 < width) : 0 < line.length := by
  cases h with
  | last some_ _ => exact some_
  | cons full _ => omega

theorem exists_lines_of_wrap {width : Nat} (positive : 0 < width) (cs : List Char) :
    ∃ lines : List String, Wrapped width lines ∧ lines.flatMap String.toList = cs ∧
      wrap width cs = (textOf lines).toList := by
  fun_induction wrap width cs with
  | case1 cs stop =>
      refine ⟨[], .nil, ?_, rfl⟩
      rcases stop with rfl | rfl
      · rfl
      · cases positive
  | case2 cs more ih =>
      obtain ⟨lines, wrapped, whole, eq⟩ := ih
      have first : (String.ofList (cs.take width)).length = min width cs.length := by simp
      refine ⟨String.ofList (cs.take width) :: lines, ?_, ?_, ?_⟩
      · have count : 0 < cs.length := List.length_pos_iff.mpr fun none_ => more (.inl none_)
        cases lines with
        | nil => exact .last (by omega) (by omega)
        | cons next rest =>
            -- there is something on the next line, so this one is full
            have some_ := wrapped.length_pos positive
            have left := congrArg List.length whole
            simp only [List.flatMap_cons, List.length_append, String.length_toList, List.length_drop] at left
            exact .cons (by omega) wrapped
      · simp [whole]
      · simp [eq, toList_textOf]

/-- A block is a text of lines, and the lines inside it are its octets in Base64. -/
theorem exists_encode_eq (label : String) (octets : List UInt8) :
    ∃ body : List String, Wrapped 64 body ∧ body.flatMap String.toList = Base64.encode octets ∧
      encode label octets = textOf (opening label :: (body ++ [closing label])) := by
  obtain ⟨body, wrapped, whole, eq⟩ :=
    exists_lines_of_wrap (show 0 < lineLength by decide) (Base64.encode octets)
  refine ⟨body, wrapped, whole, ?_⟩
  apply String.toList_injective
  delta encode
  simp [eq, toList_textOf, opening, closing, String.toList_append]

theorem exists_armored_join (label : String) (blocks : List (List UInt8)) :
    ∃ lines, Armored label blocks lines ∧ String.join (blocks.map (encode label)) = textOf lines := by
  induction blocks with
  | nil => exact ⟨[], .nil, rfl⟩
  | cons octets blocks ih =>
      obtain ⟨rest, armored, text⟩ := ih
      obtain ⟨body, wrapped, whole, block⟩ := exists_encode_eq label octets
      have decoded : Base64.decode? (body.flatMap String.toList) = some octets := by
        rw [whole, Base64.decode?_encode]
      refine ⟨_, .block wrapped decoded armored, ?_⟩
      apply String.toList_injective
      rw [List.map_cons, String.toList_join, List.flatMap_cons, ← String.toList_join, text, block]
      simp [toList_textOf]

/-- Blocks that were written one after the other are read as what they were written from. -/
theorem blocks?_join (oneLine : OneLine label) (blocks : List (List UInt8)) :
    blocks? label (String.join (blocks.map (encode label))) = some blocks := by
  obtain ⟨lines, armored, text⟩ := exists_armored_join label blocks
  rw [text, armored.blocks?_eq oneLine]

end Pem

end CertMint.Text

/-! ## Fixtures -/

namespace CertMint.Mint

open Ini (OneLine textOf)
open Text.Pem X509

/-- A text is blocks of certificates with these octets, one after the other, and nothing else. -/
def IsPemOf (blocks : List (List UInt8)) (text : String) : Prop :=
  ∃ lines, text = textOf lines ∧ Armored "CERTIFICATE" blocks lines

theorem isPemOf_join_iff (cs : List Certificate) {blocks : List (List UInt8)} :
    IsPemOf blocks (String.join (cs.map pem)) ↔ blocks = cs.map (·.der) := by
  have label : OneLine "CERTIFICATE" := ⟨by decide, by decide⟩
  obtain ⟨lines, armored, text⟩ := exists_armored_join "CERTIFICATE" (cs.map (·.der))
  rw [List.map_map] at text
  have written : String.join (cs.map pem) = textOf lines := text
  constructor
  · rintro ⟨lines', written', armored'⟩
    apply armored'.unique armored label
    exact written'.symm.trans written
  · rintro rfl
    exact ⟨lines, written, armored⟩

theorem Chain.certificates_eq (c : Chain) : c.certificates = [c.leaf, c.at_ 1, c.at_ 2, c.root] := by
  apply List.ext_getElem c.length_eq
  intro i _ inside
  match i, inside with
  | 0, _ | 1, _ | 2, _ | 3, _ => rfl

/-- What is rendered without a description is one block for a certificate, and for a chain its text in PEM,
    which is four blocks from the end of the chain to its root. It can be read as no other blocks. -/
theorem render_isPemOf (w : Workshop) :
    (∀ c : Certificate, ∃ text, (render (.certificate c) false).perform w = (.ok text, w) ∧
      ∀ blocks, IsPemOf blocks text ↔ blocks = [c.der]) ∧
    ∀ c : Chain, ∃ text, (render (.chain c) false).perform w = (.ok text, w) ∧ text = c.pem ∧
      ∀ blocks, IsPemOf blocks text ↔
        blocks = [c.leaf.der, (c.at_ 1).der, (c.at_ 2).der, c.root.der] := by
  constructor
  · intro c
    refine ⟨_, rfl, ?_⟩
    intro blocks
    exact isPemOf_join_iff [c]
  · intro c
    refine ⟨_, rfl, rfl, ?_⟩
    intro blocks
    have octets : c.certificates.map (·.der) = [c.leaf.der, (c.at_ 1).der, (c.at_ 2).der, c.root.der] := by
      rw [c.certificates_eq]
      rfl
    rw [← octets]
    exact isPemOf_join_iff c.certificates

end CertMint.Mint
