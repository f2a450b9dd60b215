import CertMint.Json.Printer
import CertMint.Proofs.Entries
import CertMint.Proofs.Numerals
import CertMint.Proofs.Work

/-! # JSON texts

Which datum a JSON text denotes, after the grammar of JSON; fractions and exponents are left out. Every datum that
has a form in JSON is written as a text that denotes it, in printable ASCII characters. So it stands on one line,
whatever characters its texts have.
-/

namespace CertMint.Json

open Keyed

/-! ## The grammar -/

section Grammar

/-- Blanks that may stand around the parts of a text. -/
def Gap (cs : List Char) : Prop := ∀ c ∈ cs, c = ' ' ∨ c = '\n' ∨ c = '\r' ∨ c = '\t'

/-- Four hexadecimal digits for a number. -/
structure UnitDigits (ds : List Char) (n : Nat) : Prop where
  four : ds.length = 4
  value : Text.hexNumber? ds = some n

/-- The letters that stand for a character after a backslash. -/
def letters : List (Char × Char) :=
  [('\x22', '\x22'), ('\\', '\\'), ('/', '/'), ('b', '\x08'), ('f', '\x0c'), ('n', '\n'), ('r', '\r'), ('t', '\t')]

/-- How a character stands in a text between quotes. A character beyond the first 65536 is a pair of UTF-16
    units. -/
inductive Spelling : List Char → Char → Prop where
  | bare {c : Char} (visible : 32 ≤ c.toNat) (notQuote : c ≠ '\x22') (notBackslash : c ≠ '\\') : Spelling [c] c
  | letter {l c : Char} (member : (l, c) ∈ letters) : Spelling ['\\', l] c
  | unit {ds : List Char} {c : Char} (digits : UnitDigits ds c.toNat) : Spelling ('\\' :: 'u' :: ds) c
  | pair {ds ds' : List Char} {c : Char} {n : Nat} (high : UnitDigits ds (0xd800 + n / 1024))
      (low : UnitDigits ds' (0xdc00 + n % 1024)) (value : c.toNat = 0x10000 + n) :
      Spelling ('\\' :: 'u' :: ds ++ '\\' :: 'u' :: ds') c

/-- How characters stand between quotes, one after the other. -/
inductive Spells : List Char → List Char → Prop where
  | nil : Spells [] []
  | cons {cs more : List Char} {c : Char} {rest : List Char} (first : Spelling cs c) (others : Spells more rest) :
      Spells (cs ++ more) (c :: rest)

/-- Decimal digits for a number. A zero stands first only alone. -/
structure Digits (ds : List Char) (n : Nat) : Prop where
  some_ : ds ≠ []
  digits : ∀ c ∈ ds, c.isDigit = true
  zeroAlone : ds.head? = some '0' → ds = ['0']
  value : Nat.ofDigitChars 10 ds 0 = n

inductive Numeral : List Char → Int → Prop where
  | plain {ds : List Char} {n : Nat} (digits : Digits ds n) : Numeral ds n
  | minus {ds : List Char} {n : Nat} (digits : Digits ds n) : Numeral ('-' :: ds) (-n)

/-- The name of an entry between quotes, with the blanks around it. -/
inductive Labels : List Char → String → Prop where
  | mk {before cs name after : List Char} (gap : Gap before) (spells : Spells cs name) (gap' : Gap after) :
      Labels (before ++ '\x22' :: (cs ++ '\x22' :: after)) (String.ofList name)

/-- An entry of a record in a text: what stands before its colon, what stands after it, its name and its datum. -/
structure Member where
  label : List Char
  content : List Char
  name : String
  datum : Datum

namespace Member

def text (m : Member) : List Char := m.label ++ ':' :: m.content

def entry (m : Member) : String × Datum := (m.name, m.datum)

/-- The entry with a blank before it. -/
def spaced (m : Member) : Member := { m with label := ' ' :: m.label }

end Member

/-- Texts with commas between them. -/
def commas (parts : List (List Char)) : List Char := [','].intercalate parts

/-- A text denotes a datum. A record has, under a name that comes more than once, what comes last. -/
inductive Denotes : List Char → Datum → Prop where
  | gap {before cs after : List Char} {d : Datum} (gap : Gap before) (denotes : Denotes cs d) (gap' : Gap after) :
      Denotes (before ++ cs ++ after) d
  | null : Denotes "null".toList .none
  | true_ : Denotes "true".toList (.bool true)
  | false_ : Denotes "false".toList (.bool false)
  | number {cs : List Char} {i : Int} (numeral : Numeral cs i) : Denotes cs (.int i)
  | text {cs s : List Char} (spells : Spells cs s) : Denotes ('\x22' :: cs ++ ['\x22']) (.text (String.ofList s))
  | noItems {cs : List Char} (gap : Gap cs) : Denotes ('[' :: cs ++ [']']) (.list [])
  | items {parts : List (List Char × Datum)} (some_ : parts ≠ []) (each : ∀ p ∈ parts, Denotes p.1 p.2) :
      Denotes ('[' :: commas (parts.map Prod.fst) ++ [']']) (.list (parts.map Prod.snd))
  | noEntries {cs : List Char} (gap : Gap cs) : Denotes ('\x7b' :: cs ++ ['\x7d']) (.named [])
  | entries {members : List Member} (some_ : members ≠ []) (labels : ∀ m ∈ members, Labels m.label m.name)
      (each : ∀ m ∈ members, Denotes m.content m.datum) :
      Denotes ('\x7b' :: commas (members.map Member.text) ++ ['\x7d'])
        (.named (putAll (members.map Member.entry) []))

@[simp] theorem commas_singleton (part : List Char) : commas [part] = part := List.intercalate_singleton

@[simp] theorem commas_cons_cons (part next : List Char) (rest : List (List Char)) :
    commas (part :: next :: rest) = part ++ ',' :: commas (next :: rest) := by
  rw [commas, List.intercalate_cons_cons, List.append_assoc]
  rfl

theorem gap_nil : Gap [] := fun _ member => by cases member

theorem gap_blank : Gap [' '] := fun _ member => .inl (List.mem_singleton.mp member)

end Grammar

/-! ## Characters -/

section Characters

theorem hexValue?_hexDigit {n : Nat} (small : n < 16) : Text.hexValue? (Text.hexDigit n) = some n := by
  have each : ∀ n < 16, Text.hexValue? (Text.hexDigit n) = some n := by decide
  exact each n small

/-- The number of hexadecimal digits, continuing from a number before them. -/
theorem foldlM_hexWidth (width n m : Nat) :
    (Text.hexWidth width n).foldlM (fun n c => (Text.hexValue? c).map (16 * n + ·)) m =
      some (16 ^ width * m + n % 16 ^ width) := by
  induction width generalizing n m with
  | zero => simp [Text.hexWidth, Nat.mod_one]
  | succ width ih =>
      have digit := hexValue?_hexDigit (Nat.mod_lt n (by decide))
      have value : 16 * (16 ^ width * m + n / 16 % 16 ^ width) + n % 16 =
          16 ^ (width + 1) * m + n % 16 ^ (width + 1) := by
        rw [Nat.pow_succ', Nat.mod_mul, Nat.mul_assoc]
        omega
      simp [Text.hexWidth, List.foldlM_append, ih, digit, value]

theorem length_hexWidth (width n : Nat) : (Text.hexWidth width n).length = width := by
  induction width generalizing n with
  | zero => rfl
  | succ width ih => simp [Text.hexWidth, ih]

theorem unitDigits_hexWidth {n : Nat} (small : n < 0x10000) : UnitDigits (Text.hexWidth 4 n) n where
  four := length_hexWidth 4 n
  value := by
    have some_ : ¬ (Text.hexWidth 4 n).isEmpty = true := by
      intro empty
      have length := length_hexWidth 4 n
      rw [List.isEmpty_iff.mp empty] at length
      cases length
    have same : n % 16 ^ 4 = n := Nat.mod_eq_of_lt small
    rw [Text.hexNumber?, if_neg some_, foldlM_hexWidth, same, Nat.mul_zero, Nat.zero_add]

/-- The printable characters of ASCII; no line ends with one of them. -/
def Printable (c : Char) : Prop := 32 ≤ c.toNat ∧ c.toNat ≤ 126

instance (c : Char) : Decidable (Printable c) := inferInstanceAs (Decidable (_ ∧ _))

theorem printable_of_all {cs : List Char} (all : cs.all (fun c => decide (Printable c)) = true) :
    ∀ c ∈ cs, Printable c :=
  fun c member => of_decide_eq_true (List.all_eq_true.mp all c member)

theorem printable_of_mem_hexWidth {width n : Nat} {c : Char} (member : c ∈ Text.hexWidth width n) : Printable c := by
  induction width generalizing n with
  | zero => cases member
  | succ width ih =>
      rcases List.mem_append.mp member with before | last
      · exact ih before
      · have each : ∀ n < 16, Printable (Text.hexDigit n) := by decide
        rw [List.mem_singleton.mp last]
        exact each _ (Nat.mod_lt n (by decide))

theorem printable_unitEscape (n : Nat) : ∀ c ∈ unitEscape n, Printable c := by
  have start : Printable '\\' ∧ Printable 'u' := by decide
  simp only [unitEscape, List.forall_mem_cons]
  exact ⟨start.1, start.2, fun _ => printable_of_mem_hexWidth⟩

/-- No character is half of a pair of UTF-16 units. -/
theorem isScalar (c : Char) : c.toNat < 0xd800 ∨ 0xdfff < c.toNat ∧ c.toNat < 0x110000 := c.valid

/-- A character that is written with a letter. A slash has one as well, but stands for itself. -/
def Lettered (c : Char) : Prop := ∃ l, (l, c) ∈ letters ∧ c ≠ '/'

theorem escapeChar_of_lettered {c : Char} (lettered : Lettered c) :
    Spelling (escapeChar c) c ∧ ∀ e ∈ escapeChar c, Printable e := by
  have written : ∀ entry ∈ letters, entry.2 ≠ '/' →
      escapeChar entry.2 = ['\\', entry.1] ∧ Printable entry.1 := by decide
  obtain ⟨l, member, notSlash⟩ := lettered
  obtain ⟨same, visible⟩ := written _ member notSlash
  rw [same]
  exact ⟨.letter member, List.forall_mem_cons.mpr ⟨by decide, List.forall_mem_singleton.mpr visible⟩⟩

theorem ne_of_not_lettered {c l d : Char} (plain : ¬ Lettered c) (member : (l, d) ∈ letters) (notSlash : d ≠ '/') :
    c ≠ d := by
  rintro rfl
  exact plain ⟨l, member, notSlash⟩

theorem escapeChar_of_not_lettered {c : Char} (plain : ¬ Lettered c) :
    escapeChar c = if 32 ≤ c.toNat ∧ c.toNat ≤ 126 then [c]
      else if c.toNat < 0x10000 then unitEscape c.toNat
      else unitEscape (0xd800 + (c.toNat - 0x10000) / 1024) ++ unitEscape (0xdc00 + (c.toNat - 0x10000) % 1024) := by
  have quote : c ≠ '\x22' := ne_of_not_lettered (l := '\x22') plain (by decide) (by decide)
  have backslash : c ≠ '\\' := ne_of_not_lettered (l := '\\') plain (by decide) (by decide)
  have newline : c ≠ '\n' := ne_of_not_lettered (l := 'n') plain (by decide) (by decide)
  have return_ : c ≠ '\r' := ne_of_not_lettered (l := 'r') plain (by decide) (by decide)
  have tab : c ≠ '\t' := ne_of_not_lettered (l := 't') plain (by decide) (by decide)
  have back : c ≠ '\x08' := ne_of_not_lettered (l := 'b') plain (by decide) (by decide)
  have feed : c ≠ '\x0c' := ne_of_not_lettered (l := 'f') plain (by decide) (by decide)
  rw [escapeChar, if_neg quote, if_neg backslash, if_neg newline, if_neg return_, if_neg tab, if_neg back,
    if_neg feed]

/-- Every character is written as a spelling of it. -/
theorem spelling_escapeChar (c : Char) : Spelling (escapeChar c) c ∧ ∀ e ∈ escapeChar c, Printable e := by
  by_cases lettered : Lettered c
  · exact escapeChar_of_lettered lettered
  rw [escapeChar_of_not_lettered lettered]
  split
  · next visible =>
      have notQuote : c ≠ '\x22' := ne_of_not_lettered (l := '\x22') lettered (by decide) (by decide)
      have notBackslash : c ≠ '\\' := ne_of_not_lettered (l := '\\') lettered (by decide) (by decide)
      exact ⟨.bare visible.1 notQuote notBackslash, List.forall_mem_singleton.mpr visible⟩
  · split
    · next basic => exact ⟨.unit (unitDigits_hexWidth basic), printable_unitEscape _⟩
    · next astral =>
        have scalar := isScalar c
        have value : c.toNat = 0x10000 + (c.toNat - 0x10000) := by omega
        refine ⟨.pair (unitDigits_hexWidth (by omega)) (unitDigits_hexWidth (by omega)) value, ?_⟩
        exact List.forall_mem_append.mpr ⟨printable_unitEscape _, printable_unitEscape _⟩

theorem spells_escape (cs : List Char) :
    Spells (cs.flatMap escapeChar) cs ∧ ∀ e ∈ cs.flatMap escapeChar, Printable e := by
  constructor
  · induction cs with
    | nil => exact .nil
    | cons c rest ih => exact .cons (spelling_escapeChar c).1 ih
  · intro e member
    obtain ⟨c, -, inside⟩ := List.mem_flatMap.mp member
    exact (spelling_escapeChar c).2 e inside

end Characters

/-! ## Numbers -/

/-- The first digit of a number that is not zero is no zero. -/
theorem head?_toDigits_ne {n : Nat} (positive : 0 < n) : (Nat.toDigits 10 n).head? ≠ some '0' := by
  induction n using Nat.strongRecOn with
  | _ n ih =>
      by_cases small : n < 10
      · rw [Nat.toDigits_of_lt_base small]
        have each : ∀ n < 10, 0 < n → [n.digitChar].head? ≠ some '0' := by decide
        exact each n small positive
      · have large : 10 ≤ n := Nat.not_lt.mp small
        have first := ih (n / 10) (by omega) (by omega)
        rwa [Nat.toDigits_of_base_le (by decide) large, List.head?_append_of_ne_nil _ Nat.toDigits_ne_nil]

theorem digits_toDigits (n : Nat) : Digits (Nat.toDigits 10 n) n where
  some_ := Nat.toDigits_ne_nil
  digits := fun _ member => Integer.isDigit_of_mem_toDigits member
  zeroAlone first := by
    rcases Nat.eq_zero_or_pos n with rfl | positive
    · exact Nat.toDigits_zero 10
    · exact absurd first (head?_toDigits_ne positive)
  value := Nat.ofDigitChars_ten_toDigits

/-- An integer is written as a numeral for it. -/
theorem numeral_toString (i : Int) : Numeral (toString i).toList i := by
  have digits := digits_toDigits i.natAbs
  rw [Integer.toList_toString]
  by_cases negative : i < 0
  · have value : -(i.natAbs : Int) = i := by omega
    have numeral := Numeral.minus digits
    rw [value] at numeral
    rw [if_pos negative]
    exact numeral
  · have value : (i.natAbs : Int) = i := by omega
    have numeral := Numeral.plain digits
    rw [value] at numeral
    rwa [if_neg negative]

theorem integerText_of_short {i : Int} (short : i.natAbs < 10 ^ Integer.maxDigits) :
    integerText i = .ok (toString i) := by
  unfold integerText Integer.text?
  -- The bound is no number to compute.
  generalize Integer.maxDigits = bound at short ⊢
  rw [Nat.pow_eq, if_pos short]

theorem printable_of_mem_toString {i : Int} {c : Char} (member : c ∈ (toString i).toList) : Printable c := by
  rw [Integer.toList_toString] at member
  rcases List.mem_append.mp member with sign | digit
  · split at sign
    · rw [List.mem_singleton.mp sign]
      decide
    · cases sign
  · obtain ⟨low, high⟩ := Integer.toNat_of_isDigit (Integer.isDigit_of_mem_toDigits digit)
    exact ⟨by omega, by omega⟩

/-! ## Data -/

/-- Data that have a form in JSON which is that of no other datum: texts of any characters, numbers without
    fraction of a length that is written, and lists and records of such data. -/
inductive Native : Datum → Prop where
  | none : Native .none
  | bool (b : Bool) : Native (.bool b)
  | int {i : Int} (short : i.natAbs < 10 ^ Integer.maxDigits) : Native (.int i)
  | text (s : String) : Native (.text s)
  | list {items : List Datum} (each : ∀ d ∈ items, Native d) : Native (.list items)
  | named {entries : List (String × Datum)} (once : (keys entries).Nodup) (each : ∀ e ∈ entries, Native e.2) :
      Native (.named entries)

/-- A datum is written as printable characters that denote it. -/
structure Writes (d : Datum) (cs : List Char) : Prop where
  writes : write d = .ok cs
  denotes : Denotes cs d
  printable : ∀ c ∈ cs, Printable c

/-! ### Parts -/

/-- The blank after a comma counts as a gap before what follows. -/
theorem joined_cons (part : List Char) (rest : List (List Char)) :
    joined (part :: rest) = commas (part :: rest.map (' ' :: ·)) := by
  induction rest generalizing part with
  | nil => exact (commas_singleton part).symm
  | cons next rest ih =>
      have blank : commas ((' ' :: next) :: rest.map (' ' :: ·)) = ' ' :: commas (next :: rest.map (' ' :: ·)) :=
        List.intercalate_cons_cons_left
      rw [joined, ih, List.map_cons, commas_cons_cons, blank]
      exact fun empty => by cases empty

theorem printable_joined {parts : List (List Char)} (each : ∀ p ∈ parts, ∀ c ∈ p, Printable c) :
    ∀ c ∈ joined parts, Printable c := by
  have comma : Printable ',' ∧ Printable ' ' := by decide
  induction parts with
  | nil => exact fun _ member => by cases member
  | cons part rest ih =>
      obtain ⟨first, others⟩ := List.forall_mem_cons.mp each
      cases rest with
      | nil => exact first
      | cons next rest =>
          rw [joined]
          · simp only [List.forall_mem_append, List.forall_mem_cons]
            exact ⟨first, comma.1, comma.2, ih others⟩
          · exact fun empty => by cases empty

theorem printable_enclosed {open_ close : Char} {cs : List Char} (opens : Printable open_) (closes : Printable close)
    (inside : ∀ c ∈ cs, Printable c) : ∀ c ∈ open_ :: cs ++ [close], Printable c :=
  List.forall_mem_append.mpr ⟨List.forall_mem_cons.mpr ⟨opens, inside⟩, List.forall_mem_singleton.mpr closes⟩

/-! ### Lists -/

theorem exists_writeItems {items : List Datum} (each : ∀ d ∈ items, ∃ cs, Writes d cs) :
    ∃ parts : List (List Char × Datum), writeItems items = .ok (parts.map Prod.fst) ∧
      parts.map Prod.snd = items ∧ ∀ p ∈ parts, Denotes p.1 p.2 ∧ ∀ c ∈ p.1, Printable c := by
  induction items with
  | nil => exact ⟨[], rfl, rfl, fun _ member => by cases member⟩
  | cons d rest ih =>
      obtain ⟨⟨cs, written⟩, others⟩ := List.forall_mem_cons.mp each
      obtain ⟨parts, wrote, same, denote⟩ := ih others
      refine ⟨(cs, d) :: parts, ?_, by rw [List.map_cons, same], ?_⟩
      · rw [writeItems, written.writes, wrote]
        rfl
      · exact List.forall_mem_cons.mpr ⟨⟨written.denotes, written.printable⟩, denote⟩

theorem denotes_items {parts : List (List Char × Datum)} (each : ∀ p ∈ parts, Denotes p.1 p.2) :
    Denotes ('[' :: joined (parts.map Prod.fst) ++ [']']) (.list (parts.map Prod.snd)) := by
  cases parts with
  | nil => exact .noItems gap_nil
  | cons p rest =>
      obtain ⟨first, others⟩ := List.forall_mem_cons.mp each
      have spaced : ∀ q ∈ p :: rest.map (fun q => (' ' :: q.1, q.2)), Denotes q.1 q.2 := by
        refine List.forall_mem_cons.mpr ⟨first, List.forall_mem_map.mpr ?_⟩
        intro q member
        simpa using Denotes.gap gap_blank (others q member) gap_nil
      have denotes := Denotes.items (List.cons_ne_nil p _) spaced
      simp only [List.map_cons, List.map_map, Function.comp_def] at denotes
      simpa [joined_cons, Function.comp_def] using denotes

/-! ### Records -/

/-- How an entry is written. -/
def memberOf (name : String) (d : Datum) (cs : List Char) : Member where
  label := quote name.toList
  content := ' ' :: cs
  name := name
  datum := d

theorem labels_quote {before : List Char} (gap : Gap before) (name : String) :
    Labels (before ++ quote name.toList) name := by
  have labels := Labels.mk gap (spells_escape name.toList).1 gap_nil
  rw [String.ofList_toList] at labels
  exact labels

theorem printable_quote (cs : List Char) : ∀ c ∈ quote cs, Printable c :=
  printable_enclosed (by decide) (by decide) (spells_escape cs).2

theorem exists_writeEntries {entries : List (String × Datum)} (each : ∀ e ∈ entries, ∃ cs, Writes e.2 cs) :
    ∃ members : List Member, writeEntries (Datum.underNames entries) = .ok (members.map Member.text) ∧
      members.map Member.entry = entries ∧
      ∀ m ∈ members, m.label = quote m.name.toList ∧ Denotes m.content m.datum ∧ ∀ c ∈ m.text, Printable c := by
  induction entries with
  | nil => exact ⟨[], rfl, rfl, fun _ member => by cases member⟩
  | cons e rest ih =>
      obtain ⟨name, d⟩ := e
      obtain ⟨⟨cs, written⟩, others⟩ := List.forall_mem_cons.mp each
      obtain ⟨members, wrote, same, denote⟩ := ih others
      refine ⟨memberOf name d cs :: members, ?_, ?_, List.forall_mem_cons.mpr ⟨⟨rfl, ?_, ?_⟩, denote⟩⟩
      · rw [Datum.underNames_cons, writeEntries, keyText, ok_bind, written.writes, ok_bind, wrote]
        rfl
      · rw [List.map_cons, same]
        rfl
      · simpa [memberOf] using Denotes.gap gap_blank written.denotes gap_nil
      · have colon : Printable ':' ∧ Printable ' ' := by decide
        simp only [Member.text, memberOf, List.forall_mem_append, List.forall_mem_cons]
        exact ⟨printable_quote _, colon.1, colon.2, written.printable⟩

theorem denotes_entries {members : List Member} (labels : ∀ m ∈ members, m.label = quote m.name.toList)
    (each : ∀ m ∈ members, Denotes m.content m.datum) :
    Denotes ('\x7b' :: joined (members.map Member.text) ++ ['\x7d'])
      (.named (putAll (members.map Member.entry) [])) := by
  cases members with
  | nil => exact .noEntries gap_nil
  | cons m rest =>
      obtain ⟨first, others⟩ := List.forall_mem_cons.mp each
      have labelled : ∀ m' ∈ m :: rest.map Member.spaced, Labels m'.label m'.name := by
        refine List.forall_mem_cons.mpr ⟨?_, List.forall_mem_map.mpr ?_⟩
        · rw [labels m List.mem_cons_self]
          exact labels_quote gap_nil m.name
        · intro m' member
          rw [Member.spaced, labels m' (List.mem_cons_of_mem m member)]
          exact labels_quote gap_blank m'.name
      have denote : ∀ m' ∈ m :: rest.map Member.spaced, Denotes m'.content m'.datum :=
        List.forall_mem_cons.mpr ⟨first, List.forall_mem_map.mpr others⟩
      have texts : Member.text ∘ Member.spaced = (' ' :: ·) ∘ Member.text := rfl
      have entries : Member.entry ∘ Member.spaced = Member.entry := rfl
      have denotes := Denotes.entries (List.cons_ne_nil m _) labelled denote
      rw [List.map_cons, List.map_map, texts, List.map_cons, List.map_map, entries] at denotes
      rwa [List.map_cons, joined_cons, List.map_map]

/-! ### Every datum -/

/-- What has a form in JSON is written in it. -/
theorem exists_writes {d : Datum} (native : Native d) : ∃ cs, Writes d cs := by
  induction native with
  | none => exact ⟨_, rfl, .null, printable_of_all rfl⟩
  | bool b =>
      cases b with
      | false => exact ⟨_, rfl, .false_, printable_of_all rfl⟩
      | true => exact ⟨_, rfl, .true_, printable_of_all rfl⟩
  | @int i short =>
      refine ⟨(toString i).toList, ?_, .number (numeral_toString i), ?_⟩
      · rw [write, integerText_of_short short]
        rfl
      · exact fun _ => printable_of_mem_toString
  | text s =>
      refine ⟨quote s.toList, rfl, ?_, printable_quote _⟩
      have denotes := Denotes.text (spells_escape s.toList).1
      rw [String.ofList_toList] at denotes
      exact denotes
  | @list items _ ih =>
      obtain ⟨parts, wrote, same, denote⟩ := exists_writeItems ih
      refine ⟨'[' :: joined (parts.map Prod.fst) ++ [']'], ?_, ?_, ?_⟩
      · rw [write, wrote]
        rfl
      · rw [← same]
        exact denotes_items fun p member => (denote p member).1
      · apply printable_enclosed (by decide) (by decide)
        apply printable_joined
        exact List.forall_mem_map.mpr fun p member => (denote p member).2
  | @named entries once _ ih =>
      obtain ⟨members, wrote, same, denote⟩ := exists_writeEntries ih
      refine ⟨'\x7b' :: joined (members.map Member.text) ++ ['\x7d'], ?_, ?_, ?_⟩
      · have asEntries : Datum.named entries = .record (Datum.underNames entries) := rfl
        rw [asEntries, write, wrote]
        rfl
      · have put : putAll entries [] = entries := putAll_of_disjoint once
        have denotes := denotes_entries (fun m member => (denote m member).1) fun m member => (denote m member).2.1
        rwa [same, put] at denotes
      · apply printable_enclosed (by decide) (by decide)
        apply printable_joined
        exact List.forall_mem_map.mpr fun m member => (denote m member).2.2

end CertMint.Json
