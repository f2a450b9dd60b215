import CertMint.Proofs.Blocks
import CertMint.Proofs.Documents
import Mathlib.Data.List.DropRight

/-! # Documents read back

A document is written section by section: a blank line, the header, and a line for each option. What is
written so is read as the document, whatever the values hold, as long as they neither begin nor end with
a blank.
-/

namespace CertMint.Text

/-! ## Trimming -/

/-- Characters with no blanks at their ends. -/
structure Trimmed (cs : List Char) : Prop where
  start : cs.dropWhile isBlank = cs
  stop : cs.rdropWhile isBlank = cs

theorem trimmed_nil : Trimmed [] := ⟨rfl, rfl⟩

theorem trim_eq (s : String) : trim s = String.ofList ((s.toList.dropWhile isBlank).rdropWhile isBlank) :=
  rfl

theorem trim_eq_self_iff {s : String} : trim s = s ↔ Trimmed s.toList := by
  rw [trim_eq]
  constructor
  · intro h
    have same := congrArg String.toList h
    rw [String.toList_ofList] at same
    have suffix : s.toList.dropWhile isBlank <:+ s.toList := List.dropWhile_suffix _
    have shorter : ((s.toList.dropWhile isBlank).rdropWhile isBlank).length ≤
        (s.toList.dropWhile isBlank).length := (List.rdropWhile_prefix _ _).length_le
    rw [same] at shorter
    have start := suffix.eq_of_length_le shorter
    rw [start] at same
    exact ⟨start, same⟩
  · intro h
    rw [h.start, h.stop, String.ofList_toList]

/-- Whether there is no blank among characters. -/
def isSolid (cs : List Char) : Bool := cs.all (!isBlank ·)

theorem isSolid_iff {cs : List Char} : isSolid cs = true ↔ ∀ c ∈ cs, isBlank c = false := by
  simp only [isSolid, List.all_eq_true, Bool.not_eq_true']

theorem isBlank_of_mem_newline : ∀ c ∈ ['\n'], isBlank c = true := List.all_eq_true.mp (by decide)

theorem isBlank_of_mem_space : ∀ c ∈ [' '], isBlank c = true := List.all_eq_true.mp (by decide)

theorem trimmed_of_solid {cs : List Char} (solid : ∀ c ∈ cs, isBlank c = false) : Trimmed cs := by
  constructor
  · rw [List.dropWhile_eq_self_iff]
    intro some_
    exact Bool.eq_false_iff.mp (solid _ (List.getElem_mem some_))
  · rw [List.rdropWhile_eq_self_iff]
    intro some_
    exact Bool.eq_false_iff.mp (solid _ (List.getLast_mem some_))

theorem rdropWhile_append_of_pos {p : Char → Bool} {after : List Char} (all : ∀ c ∈ after, p c = true)
    (cs : List Char) : (cs ++ after).rdropWhile p = cs.rdropWhile p := by
  rw [List.rdropWhile, List.rdropWhile, List.reverse_append, List.dropWhile_append_of_pos]
  intro c member
  exact all c (List.mem_reverse.mp member)

theorem dropWhile_append_eq {p : Char → Bool} {front : List Char} (some_ : front ≠ [])
    (start : front.dropWhile p = front) (back : List Char) :
    (front ++ back).dropWhile p = front ++ back := by
  obtain ⟨c, cs, rfl⟩ := List.exists_cons_of_ne_nil some_
  have first : ¬ p c = true := List.dropWhile_eq_self_iff.mp start (Nat.succ_pos _)
  exact List.dropWhile_cons_of_neg first

theorem rdropWhile_append_eq {p : Char → Bool} {back : List Char} (some_ : back ≠ [])
    (stop : back.rdropWhile p = back) (front : List Char) :
    (front ++ back).rdropWhile p = front ++ back := by
  rw [List.rdropWhile_eq_self_iff]
  intro whole
  rw [List.getLast_append_of_ne_nil whole some_]
  exact List.rdropWhile_eq_self_iff.mp stop some_

/-- Blanks around trimmed characters are what trimming removes. -/
theorem trim_of_toList {s : String} {before core after : List Char}
    (eq : s.toList = before ++ (core ++ after)) (blank : ∀ c ∈ before, isBlank c = true)
    (blank' : ∀ c ∈ after, isBlank c = true) (trimmed : Trimmed core) : trim s = String.ofList core := by
  rw [trim_eq, eq, List.dropWhile_append_of_pos blank]
  congr 1
  by_cases empty : core = []
  · rw [empty, List.nil_append, List.dropWhile_eq_nil_iff.mpr blank']
    rfl
  · rw [dropWhile_append_eq empty trimmed.start, rdropWhile_append_of_pos blank', trimmed.stop]

end CertMint.Text

namespace CertMint.Ini

open Text Keyed

/-! ## Lines -/

/-- The characters that follow the sign between an option and its value. -/
def spaced (value : String) : List Char := if value.isEmpty then [] else ' ' :: value.toList

/-- The line of an option. -/
def optionLine (entry : String × String) : String := entry.1 ++ " =" ++ String.ofList (spaced entry.2)

def headerLine (name : String) : String := "[" ++ name ++ "]"

/-- The lines of a section. -/
def sectionLines (held : String × Options) : List String :=
  "" :: headerLine held.1 :: held.2.map optionLine

/-- The lines of a document: a comment, and its sections. -/
def documentLines (title : String) (sections : List (String × Options)) : List String :=
  ("# " ++ title) :: sections.flatMap sectionLines

/-- Whether a character is one of a name and of nothing else. -/
def isPlainChar (c : Char) : Bool :=
  !isBlank c && !isDelimiter c && c != '[' && c != '#' && c != ';'

/-- A name of an option that is read as it is written. -/
structure PlainName (name : String) : Prop where
  nonempty : name.toList ≠ []
  plain : name.toList.all isPlainChar = true
  lower : Text.lower name = name

/-- A value that is read as it is written: it has no blanks at its ends and stands on one line. -/
structure PlainValue (value : String) : Prop where
  trimmed : Trimmed value.toList
  oneLine : OneLine value

/-- A section that is read as it is written. -/
structure PlainSection (held : String × Options) : Prop where
  nonempty : held.1 ≠ ""
  other : held.1 ≠ defaultSection
  oneLine : OneLine held.1
  once : (keys held.2).Nodup
  plain : ∀ entry ∈ held.2, PlainName entry.1 ∧ PlainValue entry.2

section Lines

variable {name value : String}

theorem toList_optionLine (name value : String) :
    (optionLine (name, value)).toList = name.toList ++ ' ' :: '=' :: spaced value := by
  simp [optionLine, String.toList_append]

theorem toList_headerLine (name : String) : (headerLine name).toList = '[' :: (name.toList ++ [']']) := by
  simp [headerLine, String.toList_append]

theorem oneLine_of_solid {text : String} (solid : ∀ c ∈ text.toList, isBlank c = false) : OneLine text := by
  have absent (c : Char) (blank : isBlank c = true) : c ∉ text.toList := fun member => by
    cases (solid c member).symm.trans blank
  exact ⟨absent _ (by decide), absent _ (by decide)⟩

theorem plainValue_of_solid (solid : ∀ c ∈ value.toList, isBlank c = false) : PlainValue value :=
  ⟨trimmed_of_solid solid, oneLine_of_solid solid⟩

theorem PlainName.of_mem {c : Char} (plain : PlainName name) (member : c ∈ name.toList) :
    isBlank c = false ∧ isDelimiter c = false ∧ c ≠ '[' ∧ c ≠ '#' ∧ c ≠ ';' := by
  have plainChar := List.all_eq_true.mp plain.plain c member
  simpa only [isPlainChar, Bool.and_eq_true, Bool.not_eq_true', bne_iff_ne, and_assoc] using plainChar

theorem PlainName.trimmed (plain : PlainName name) : Trimmed name.toList :=
  trimmed_of_solid fun _ member => (plain.of_mem member).1

theorem PlainName.oneLine (plain : PlainName name) : OneLine name :=
  oneLine_of_solid fun _ member => (plain.of_mem member).1

theorem rdropWhile_spaced (trimmed : Trimmed value.toList) :
    ('=' :: spaced value).rdropWhile isBlank = '=' :: spaced value := by
  rw [spaced]
  split
  · decide
  · next some_ =>
      have full : value.toList ≠ [] := by simpa using some_
      exact rdropWhile_append_eq full trimmed.stop ['=', ' ']

theorem trimmed_optionLine (plain : PlainName name) (trimmed : Trimmed value.toList) :
    Trimmed (optionLine (name, value)).toList := by
  rw [toList_optionLine]
  constructor
  · exact dropWhile_append_eq plain.nonempty plain.trimmed.start _
  · rw [List.append_cons]
    exact rdropWhile_append_eq (List.cons_ne_nil _ _) (rdropWhile_spaced trimmed) _

theorem trimmed_headerLine (name : String) : Trimmed (headerLine name).toList := by
  rw [toList_headerLine]
  constructor
  · exact dropWhile_append_eq (List.cons_ne_nil '[' []) (by decide) _
  · exact rdropWhile_append_eq (List.cons_ne_nil ']' []) (by decide) ('[' :: name.toList)

theorem trim_ended {line : String} (trimmed : Trimmed line.toList) : trim (line ++ "\n") = line := by
  have eq : (line ++ "\n").toList = [] ++ (line.toList ++ ['\n']) := String.toList_append
  rw [trim_of_toList eq (fun _ member => (by cases member)) isBlank_of_mem_newline trimmed,
    String.ofList_toList]

theorem header?_headerLine (full : name ≠ "") : header? (headerLine name) = some name := by
  have some_ : name.toList ≠ [] := fun empty => full (String.toList_eq_nil_iff.mp empty)
  rw [header?, toList_headerLine]
  simp [some_]

/-- The line of an option is no comment and no header. -/
theorem line_of_plainName (plain : PlainName name) (value : String) :
    isComment (optionLine (name, value)) = false ∧ header? (optionLine (name, value)) = none := by
  obtain ⟨c, cs, eq⟩ := List.exists_cons_of_ne_nil plain.nonempty
  obtain ⟨-, -, bracket, hash, semicolon⟩ := plain.of_mem (eq ▸ List.mem_cons_self)
  rw [isComment, header?, toList_optionLine, eq, List.cons_append]
  constructor
  · split
    · exact absurd (List.cons.inj ‹_›).1 hash
    · exact absurd (List.cons.inj ‹_›).1 semicolon
    · rfl
  · split
    · exact absurd (List.cons.inj ‹_›).1 bracket
    · rfl

theorem trim_spaced (trimmed : Trimmed value.toList) : trim (String.ofList (spaced value)) = value := by
  have around : ∃ before, spaced value = before ++ (value.toList ++ []) ∧ ∀ c ∈ before, isBlank c = true := by
    rw [spaced]
    split
    · next empty =>
        refine ⟨[], ?_, fun _ member => (by cases member)⟩
        simpa using empty
    · exact ⟨[' '], by simp, isBlank_of_mem_space⟩
  obtain ⟨before, eq, blank⟩ := around
  rw [trim_of_toList (String.toList_ofList.trans eq) blank (fun _ member => (by cases member)) trimmed,
    String.ofList_toList]

theorem option?_optionLine (plain : PlainName name) (trimmed : Trimmed value.toList) :
    option? (optionLine (name, value)) = some (name, value) := by
  have solid : ∀ c ∈ name.toList ++ [' '], (!isDelimiter c) = true := by
    intro c member
    rcases List.mem_append.mp member with member | member
    · rw [(plain.of_mem member).2.1]
      rfl
    · rw [List.mem_singleton.mp member]
      decide
  have named : trim (String.ofList (name.toList ++ [' '])) = name := by
    have eq : (String.ofList (name.toList ++ [' '])).toList = [] ++ (name.toList ++ [' ']) :=
      String.toList_ofList
    rw [trim_of_toList eq (fun _ member => (by cases member)) isBlank_of_mem_space plain.trimmed,
      String.ofList_toList]
  rw [option?, toList_optionLine, List.append_cons, List.dropWhile_append_of_pos solid,
    List.takeWhile_append_of_pos solid]
  change some (Text.lower (trim (String.ofList (name.toList ++ [' '] ++ []))),
    trim (String.ofList (spaced value))) = _
  rw [List.append_nil, named, plain.lower, trim_spaced trimmed]

end Lines

/-! ## Values -/

section Values

variable {value : String} {lines : List String}

theorem joinValue_singleton (trimmed : Trimmed value.toList) : joinValue [value] = value := by
  have whole : (value.toList.reverse.dropWhile isBlank).reverse = value.toList := trimmed.stop
  rw [joinValue, List.reverse_singleton, String.intercalate_singleton]
  simp only [whole, String.ofList_toList]

/-- A blank line after a value does not belong to it. -/
theorem joinValue_cons_empty (lines : List String) : joinValue ("" :: lines) = joinValue lines := by
  cases lines with
  | nil => rfl
  | cons line lines =>
      have whole : ("\n".intercalate ("" :: line :: lines).reverse).toList =
          ("\n".intercalate (line :: lines).reverse).toList ++ ['\n'] := by
        rw [List.reverse_cons, String.intercalate_append_of_ne_nil]
        · simp [String.toList_append]
        · simp
        · simp
      rw [joinValue, joinValue, whole]
      exact congrArg String.ofList (rdropWhile_append_of_pos isBlank_of_mem_newline _)

theorem finish_eq (draft : Draft) : finish draft = mapValues joinValue draft := rfl

/-- A draft with a blank line more after a value is finished like the one before. -/
theorem finish_modify (name : String) (draft : Draft) :
    finish (Keyed.modify name ("" :: ·) draft) = finish draft :=
  mapValues_modify_of_same joinValue joinValue_cons_empty name draft

end Values

/-! ## Scans -/

/-- Some section of a name has an option of a name. -/
def HasOption (sections : List (String × Options)) (inSection option : String) : Prop :=
  ∃ own, (inSection, own) ∈ sections ∧ option ∈ keys own

namespace HasOption

variable {sections : List (String × Options)} {inSection name option : String} {own : Options}

theorem append (h : HasOption sections inSection option) (more : List (String × Options)) :
    HasOption (sections ++ more) inSection option := by
  obtain ⟨own, held, used⟩ := h
  exact ⟨own, List.mem_append_left _ held, used⟩

theorem last (used : option ∈ keys own) : HasOption (sections ++ [(name, own)]) name option :=
  ⟨own, List.mem_append_right _ List.mem_cons_self, used⟩

theorem append_iff : HasOption (sections ++ [(name, own)]) inSection option ↔
    HasOption sections inSection option ∨ inSection = name ∧ option ∈ keys own := by
  constructor
  · rintro ⟨own', held, used⟩
    rcases List.mem_append.mp held with held | held
    · exact .inl ⟨own', held, used⟩
    · obtain ⟨rfl, rfl⟩ := Prod.mk.inj (List.mem_singleton.mp held)
      exact .inr ⟨rfl, used⟩
  · rintro (has_ | ⟨rfl, used⟩)
    · exact has_.append _
    · exact last used

end HasOption

/-- A scan that has read some sections, the last of which is still open, and nothing else. -/
structure Scan.Holds (s : Scan) (sections : List (String × Options)) : Prop where
  defaults : s.defaults = []
  finished : mapValues finish s.sections = sections
  current : s.current = sections.getLast?.map Prod.fst
  wrong : s.wrong = []
  seen : ∀ inSection name, (inSection, name) ∈ s.seen → HasOption sections inSection name
  once : (keys sections).Nodup
  named : defaultSection ∉ keys sections

namespace Scan

variable {s : Scan} {sections : List (String × Options)} {name option value line : String} {own : Options}
  {number : Nat}

theorem holds_start : Holds {} [] where
  defaults := rfl
  finished := rfl
  current := rfl
  wrong := rfl
  seen _ _ member := by cases member
  once := .nil
  named := List.not_mem_nil

/-- What is changed in the section that is open. -/
theorem changeCurrent_eq (current : s.current = some name) (other : name ≠ defaultSection)
    (f : Draft → Draft) : s.changeCurrent f = { s with sections := Keyed.modify name f s.sections } := by
  rw [changeCurrent, current]
  exact if_neg other

theorem Holds.addLine (holds : s.Holds sections) : (s.addLine "").Holds sections := by
  rw [Scan.addLine]
  cases current : s.current with
  | none =>
      rw [changeCurrent, current]
      exact holds
  | some name =>
      have last := holds.current.symm.trans current
      obtain ⟨held, isLast, rfl⟩ := Option.map_eq_some_iff.mp last
      have member : held.1 ∈ keys sections := List.mem_map_of_mem (List.mem_of_getLast? isLast)
      rw [changeCurrent_eq current fun same => holds.named (same ▸ member)]
      refine { holds with finished := ?_ }
      exact (mapValues_modify_of_same finish (finish_modify s.option) held.1 s.sections).trans holds.finished

theorem readLine_blank (holds : s.Holds sections) (number : Nat) :
    ∃ s', s.readLine number ("" ++ "\n") = .ok s' ∧ s'.Holds sections := by
  have blank : trim ("" ++ "\n") = "" := trim_ended trimmed_nil
  rw [readLine, blank]
  refine ⟨_, rfl, ?_⟩
  split
  · exact holds.addLine
  · exact holds

/-- A line that begins with neither a blank nor the sign of a comment is read as a header or an option. -/
theorem readLine_flush (trimmed : Trimmed line.toList) (full : line.toList ≠ [])
    (plain : isComment line = false) :
    s.readLine number (line ++ "\n") = { s with indent := 0 }.readFresh number (line ++ "\n") line := by
  have depth : (line ++ "\n").toList.takeWhile isBlank = [] := by
    obtain ⟨c, cs, eq⟩ := List.exists_cons_of_ne_nil full
    have start := trimmed.start
    rw [eq] at start
    have first : ¬ isBlank c = true := List.dropWhile_eq_self_iff.mp start (Nat.succ_pos _)
    rw [String.toList_append, eq, List.cons_append, List.takeWhile_cons_of_neg first]
  have some_ : line.isEmpty = false := by simpa using full
  simp only [readLine, trim_ended trimmed, plain, some_, depth, List.length_nil, Nat.not_lt_zero,
    decide_false, Bool.and_false, Bool.false_eq_true, if_false]

theorem Holds.beginSection (holds : s.Holds sections) (other : name ≠ defaultSection)
    (fresh : name ∉ keys sections) (number : Nat) :
    ∃ s', s.beginSection number name = .ok s' ∧ s'.Holds (sections ++ [(name, [])]) := by
  have absent : ¬ has name s.sections = true := by
    rw [Bool.not_eq_true, has_eq_false_iff, ← keys_mapValues finish, holds.finished]
    exact fresh
  rw [Scan.beginSection, if_neg absent, if_neg other]
  refine ⟨_, rfl, ?_⟩
  exact {
    defaults := holds.defaults
    finished := by
      rw [← holds.finished]
      exact List.map_append
    current := by
      rw [List.getLast?_concat]
      rfl
    wrong := holds.wrong
    seen := fun inSection name' member => (holds.seen inSection name' member).append _
    once := by
      rw [keys_append, List.nodup_append]
      refine ⟨holds.once, List.nodup_cons.mpr ⟨List.not_mem_nil, .nil⟩, ?_⟩
      rintro used before _ member rfl
      obtain rfl := List.mem_singleton.mp member
      exact fresh before
    named := by
      rw [keys_append, List.mem_append, not_or]
      exact ⟨holds.named, fun member => other (List.mem_singleton.mp member).symm⟩ }

/-! What is known of the section that is open. -/

theorem Holds.ne_defaultSection (holds : s.Holds (sections ++ [(name, own)])) : name ≠ defaultSection := by
  rintro rfl
  refine holds.named ?_
  rw [keys_append]
  exact List.mem_append_right _ List.mem_cons_self

theorem Holds.current_eq (holds : s.Holds (sections ++ [(name, own)])) : s.current = some name := by
  rw [holds.current, List.getLast?_concat]
  rfl

theorem Holds.not_mem_seen (holds : s.Holds (sections ++ [(name, own)])) (fresh : option ∉ keys own) :
    (name, option) ∉ s.seen := by
  intro member
  rcases HasOption.append_iff.mp (holds.seen name option member) with ⟨own', held, -⟩ | ⟨-, used⟩
  · exact not_mem_keys_of_nodup holds.once (mem_keys_of_mem held)
  · exact fresh used

theorem Holds.beginOption (holds : s.Holds (sections ++ [(name, own)])) (full : option ≠ "")
    (fresh : option ∉ keys own) (trimmed : Trimmed value.toList) (number : Nat) (line : String) :
    ∃ s', s.beginOption number line name option value = .ok s' ∧
      s'.Holds (sections ++ [(name, own ++ [(option, value)])]) := by
  have unused : name ∉ keys sections := not_mem_keys_of_nodup holds.once
  have unseen : s.seen.contains (name, option) = false := by
    rw [Bool.eq_false_iff, ne_eq, List.contains_iff_mem]
    exact holds.not_mem_seen fresh
  have some_ : option.isEmpty = false := by simpa using full
  rw [Scan.beginOption, some_]
  simp only [Bool.false_eq_true, if_false, unseen,
    changeCurrent_eq holds.current_eq holds.ne_defaultSection]
  refine ⟨_, rfl, ?_⟩
  have keysEq : keys (sections ++ [(name, own ++ [(option, value)])]) = keys (sections ++ [(name, own)]) := by
    simp only [keys_append, keys_cons]
  exact {
    defaults := holds.defaults
    finished := by
      have put_ (draft : Draft) : finish (put option [value] draft) = put option value (finish draft) := by
        rw [finish_eq, finish_eq, mapValues_put, joinValue_singleton trimmed]
      have same := mapValues_modify finish put_ name s.sections
      rw [holds.finished, modify_append_of_not_mem unused, put_of_not_mem fresh] at same
      exact same
    current := by
      rw [List.getLast?_concat]
      exact holds.current_eq
    wrong := holds.wrong
    seen := by
      intro inSection name' member
      rw [HasOption.append_iff, keys_append, List.mem_append]
      rcases List.mem_cons.mp member with same | member
      · obtain ⟨rfl, rfl⟩ := Prod.mk.inj same
        exact .inr ⟨rfl, .inr List.mem_cons_self⟩
      · exact (HasOption.append_iff.mp (holds.seen inSection name' member)).imp_right (.imp_right .inl)
    once := keysEq ▸ holds.once
    named := keysEq ▸ holds.named }

/-- How deep the last line was indented does not matter. -/
theorem Holds.indented (holds : s.Holds sections) (depth : Nat) : Holds { s with indent := depth } sections :=
  ⟨holds.defaults, holds.finished, holds.current, holds.wrong, holds.seen, holds.once, holds.named⟩

theorem readLine_header (holds : s.Holds sections) (full : name ≠ "") (other : name ≠ defaultSection)
    (fresh : name ∉ keys sections) (number : Nat) :
    ∃ s', s.readLine number (headerLine name ++ "\n") = .ok s' ∧ s'.Holds (sections ++ [(name, [])]) := by
  have begins : (headerLine name).toList ≠ [] := by
    rw [toList_headerLine]
    exact List.cons_ne_nil _ _
  have plain : isComment (headerLine name) = false := by
    rw [isComment, toList_headerLine]
    rfl
  rw [readLine_flush (trimmed_headerLine name) begins plain, readFresh, header?_headerLine full]
  exact (holds.indented 0).beginSection other fresh number

theorem readFresh_option {ended : String} (current : s.current = some name) (noHeader : header? line = none)
    (read : option? line = some (option, value)) :
    s.readFresh number ended line = s.beginOption number ended name option value := by
  rw [readFresh, noHeader, current, read]

theorem readLine_option (holds : s.Holds (sections ++ [(name, own)])) (plain : PlainName option)
    (fresh : option ∉ keys own) (trimmed : Trimmed value.toList) (number : Nat) :
    ∃ s', s.readLine number (optionLine (option, value) ++ "\n") = .ok s' ∧
      s'.Holds (sections ++ [(name, own ++ [(option, value)])]) := by
  have begins : (optionLine (option, value)).toList ≠ [] := by
    rw [toList_optionLine]
    exact List.append_ne_nil_of_left_ne_nil plain.nonempty _
  have full : option ≠ "" := fun same => plain.nonempty (String.toList_eq_nil_iff.mpr same)
  obtain ⟨noComment, noHeader⟩ := line_of_plainName plain value
  rw [readLine_flush (trimmed_optionLine plain trimmed) begins noComment,
    readFresh_option (holds.indented 0).current_eq noHeader (option?_optionLine plain trimmed)]
  exact (holds.indented 0).beginOption full fresh trimmed number _

/-! ## Runs -/

theorem readLines_append {s' : Scan} {lines : List String} (first : s.readLines number lines = .ok s')
    (more : List String) :
    s.readLines number (lines ++ more) = s'.readLines (number + lines.length) more := by
  induction lines generalizing s number with
  | nil =>
      obtain rfl := Except.ok.inj first
      rfl
  | cons line lines ih =>
      rw [readLines] at first
      rw [List.cons_append, readLines, List.length_cons, Nat.add_comm lines.length, ← Nat.add_assoc]
      split at first
      · cases first
      · exact ih first

/-- Lines that lead from sections that have been read to others. -/
def Leads (before : List (String × Options)) (lines : List String) (after : List (String × Options)) : Prop :=
  ∀ (s : Scan) (number : Nat), s.Holds before →
    ∃ s', s.readLines number (lines.map (· ++ "\n")) = .ok s' ∧ s'.Holds after

namespace Leads

variable {before between after : List (String × Options)} {lines more : List String}

theorem nil : Leads before [] before := fun s _ holds => ⟨s, rfl, holds⟩

theorem cons (step : ∀ (s : Scan) (number : Nat), s.Holds before →
      ∃ s', s.readLine number (line ++ "\n") = .ok s' ∧ s'.Holds between)
    (rest : Leads between lines after) : Leads before (line :: lines) after := by
  intro s number holds
  obtain ⟨s₁, first, holds⟩ := step s number holds
  obtain ⟨s₂, others, holds⟩ := rest s₁ (number + 1) holds
  refine ⟨s₂, ?_, holds⟩
  rw [List.map_cons, readLines, first]
  exact others

theorem append (first : Leads before lines between) (second : Leads between more after) :
    Leads before (lines ++ more) after := by
  intro s number holds
  obtain ⟨s₁, read, holds⟩ := first s number holds
  obtain ⟨s₂, others, holds⟩ := second s₁ _ holds
  refine ⟨s₂, ?_, holds⟩
  rw [List.map_append, readLines_append read]
  exact others

end Leads

theorem leads_options {options : Options} (once : (keys (own ++ options)).Nodup)
    (plain : ∀ entry ∈ options, PlainName entry.1 ∧ PlainValue entry.2) :
    Leads (sections ++ [(name, own)]) (options.map optionLine) (sections ++ [(name, own ++ options)]) := by
  induction options generalizing own with
  | nil =>
      rw [List.append_nil]
      exact .nil
  | cons entry rest ih =>
      obtain ⟨option, value⟩ := entry
      obtain ⟨⟨plainName, plainValue⟩, others⟩ := List.forall_mem_cons.mp plain
      have fresh : option ∉ keys own := not_mem_keys_of_nodup once
      rw [List.append_cons] at once
      rw [List.append_cons own]
      refine .cons (fun s number holds => ?_) (ih once others)
      exact readLine_option holds plainName fresh plainValue.trimmed number

theorem leads_section {held : String × Options} (plain : PlainSection held) (fresh : held.1 ∉ keys sections) :
    Leads sections (sectionLines held) (sections ++ [held]) := by
  refine .cons (fun s number holds => readLine_blank holds number) ?_
  refine .cons (fun s number holds => readLine_header holds plain.nonempty plain.other fresh number) ?_
  exact leads_options plain.once plain.plain

/-- Every section is read as it is written, one after the other. -/
theorem leads_sections {more : List (String × Options)} (once : (keys (sections ++ more)).Nodup)
    (plain : ∀ held ∈ more, PlainSection held) :
    Leads sections (more.flatMap sectionLines) (sections ++ more) := by
  induction more generalizing sections with
  | nil =>
      rw [List.append_nil]
      exact .nil
  | cons held rest ih =>
      obtain ⟨first, others⟩ := List.forall_mem_cons.mp plain
      have fresh : held.1 ∉ keys sections := not_mem_keys_of_nodup once
      rw [List.append_cons] at once
      rw [List.flatMap_cons, List.append_cons]
      exact (leads_section first fresh).append (ih once others)

/-- A line of a comment is read as nothing. -/
theorem readLine_comment (s : Scan) (number : Nat) (title : String) :
    s.readLine number (("# " ++ title) ++ "\n") = .ok s := by
  have comment : isComment (trim (("# " ++ title) ++ "\n")) = true := by
    have eq : (("# " ++ title) ++ "\n").toList = '#' :: ' ' :: (title.toList ++ ['\n']) := by
      simp [String.toList_append]
    rw [isComment, trim_eq, String.toList_ofList, eq, List.dropWhile_cons_of_neg (by decide)]
    have some_ : ('#' :: ' ' :: (title.toList ++ ['\n'])).rdropWhile isBlank ≠ [] := fun empty =>
      absurd (List.rdropWhile_eq_nil_iff.mp empty '#' List.mem_cons_self) (by decide)
    have begins := List.rdropWhile_prefix isBlank ('#' :: ' ' :: (title.toList ++ ['\n']))
    obtain ⟨c, cs, shape⟩ := List.exists_cons_of_ne_nil some_
    rw [shape] at begins ⊢
    obtain ⟨rfl, -⟩ := List.cons_prefix_cons.mp begins
    rfl
  rw [readLine, comment]
  rfl

end Scan

/-! ## Documents -/

section Documents

variable {title : String} {sections : List (String × Options)}

theorem ofSource_documentLines (title : String) (once : (keys sections).Nodup)
    (plain : ∀ held ∈ sections, PlainSection held) :
    Document.ofSource ⟨(documentLines title sections).map (· ++ "\n"), none⟩ = .ok ⟨[], sections⟩ := by
  have leads : Scan.Leads [] (documentLines title sections) ([] ++ sections) := by
    refine .cons (fun s number holds => ⟨s, s.readLine_comment number title, holds⟩) ?_
    exact Scan.leads_sections once plain
  obtain ⟨s, read, holds⟩ := leads {} 1 Scan.holds_start
  rw [Document.ofSource]
  simp only [read, holds.wrong, List.isEmpty_nil, if_true, holds.defaults]
  exact congrArg (fun held => Except.ok (Document.mk [] held)) holds.finished

theorem oneLine_optionLine {name value : String} (plain : PlainName name) (oneLine : OneLine value) :
    OneLine (optionLine (name, value)) := by
  have spacedLine : OneLine (String.ofList (spaced value)) := by
    rw [OneLine, String.toList_ofList, spaced]
    split
    · exact ⟨List.not_mem_nil, List.not_mem_nil⟩
    · exact ⟨List.not_mem_cons_of_ne_of_not_mem (by decide) oneLine.1,
        List.not_mem_cons_of_ne_of_not_mem (by decide) oneLine.2⟩
  exact (plain.oneLine.append ⟨by decide, by decide⟩).append spacedLine

theorem oneLine_of_mem_documentLines (titled : OneLine title) (plain : ∀ held ∈ sections, PlainSection held) :
    ∀ line ∈ documentLines title sections, OneLine line := by
  rw [documentLines, List.forall_mem_cons]
  refine ⟨OneLine.append ⟨by decide, by decide⟩ titled, fun line member => ?_⟩
  obtain ⟨held, inside, member⟩ := List.mem_flatMap.mp member
  have plain := plain held inside
  rw [sectionLines, List.mem_cons, List.mem_cons, List.mem_map] at member
  rcases member with rfl | rfl | ⟨entry, inOwn, rfl⟩
  · exact ⟨List.not_mem_nil, List.not_mem_nil⟩
  · exact (OneLine.append ⟨by decide, by decide⟩ plain.oneLine).append ⟨by decide, by decide⟩
  · obtain ⟨plainName, plainValue⟩ := plain.plain entry inOwn
    exact oneLine_optionLine plainName plainValue.oneLine

/-- A document is read as it was written to a file. -/
theorem ofSource_ofOctets (titled : OneLine title) (once : (keys sections).Nodup)
    (plain : ∀ held ∈ sections, PlainSection held) :
    Document.ofSource (Source.ofOctets (utf8 (textOf (documentLines title sections)))) =
      .ok ⟨[], sections⟩ := by
  rw [ofOctets_textOf (oneLine_of_mem_documentLines titled plain), ofSource_documentLines title once plain]

end Documents

end CertMint.Ini
