import CertMint.Proofs.Loading

/-! # Which text decides a field

A field has a place in a settings file, an option of a section, and a name of its own among the defaults.
The section gives it the value of the option, its own or a default, with references replaced. What stands
in the defaults under the field's own name is taken as it is written, and decides the field even where
the section gives it.
-/

namespace CertMint.Settings

open Ini Keyed

/-- The name under which an option of a section is read. -/
def dotted (inSection option : String) : String := inSection ++ "." ++ option

namespace Field

/-- The section that a field has its place in. -/
def holder : Field → String
  | .keySize | .publicExponent => "keys"
  | .signatureHash => "signature"
  | .validNotBefore | .validNotAfter | .expiredNotBefore | .expiredNotAfter => "validity"
  | .logLevel | .logFile => "app"

/-- The option of its section that a field is. -/
def option : Field → String
  | .keySize => "size"
  | .publicExponent => "public_exponent"
  | .signatureHash => "hash"
  | .validNotBefore => "valid_not_before_days"
  | .validNotAfter => "valid_not_after_days"
  | .expiredNotBefore => "expired_not_before_days"
  | .expiredNotAfter => "expired_not_after_days"
  | .logLevel => "log_level"
  | .logFile => "log_file_path"

/-- The name under which the option of its section is read. -/
def placeName (f : Field) : String := dotted f.holder f.option

/-- Whether a text is a name of a field. -/
def isNamed (f : Field) (name : String) : Bool := name == f.name || name == f.placeName

/-- The names in a file are those of the fields. -/
theorem get?_fileNames {name : String} {f : Field} :
    get? name fileNames = some f ↔ f.isNamed name = true := by
  have once : (keys fileNames).Nodup := by decide
  rw [get?_eq_some_iff once, isNamed, Bool.or_eq_true, beq_iff_eq, beq_iff_eq]
  cases f <;> simp [fileNames, Field.name, placeName, dotted, holder, option, or_comm]

theorem get_set_self (s : Settings) (f : Field) (d : Datum) : (s.set f d).get f = d := by
  cases f <;> rfl

theorem get_set_of_ne {f g : Field} (s : Settings) (d : Datum) (other : f ≠ g) :
    (s.set f d).get g = s.get g := by
  cases f <;> cases g <;> first | rfl | exact absurd rfl other

end Field

/-! ## Names with a dot -/

theorem toList_dotted (inSection option : String) :
    (dotted inSection option).toList = inSection.toList ++ '.' :: option.toList := by
  simp [dotted, String.toList_append]

/-- A name with one dot comes from one section and one option only. -/
theorem dotted_inj {inSection option inSection' option' : String} (whole : '.' ∉ inSection.toList)
    (whole' : '.' ∉ option.toList) :
    dotted inSection' option' = dotted inSection option ↔ inSection' = inSection ∧ option' = option := by
  refine ⟨fun same => ?_, fun ⟨h, h'⟩ => h ▸ h' ▸ rfl⟩
  have lists := congrArg String.toList same
  rw [toList_dotted, toList_dotted] at lists
  rcases List.append_eq_append_iff.mp lists with ⟨more, first, last⟩ | ⟨more, first, last⟩
  · cases more with
    | nil =>
        rw [List.append_nil] at first
        exact ⟨(String.toList_injective first).symm, String.toList_injective (List.cons.inj last).2⟩
    | cons c more =>
        obtain ⟨rfl, -⟩ := List.cons.inj last
        exact absurd (first ▸ List.mem_append_right _ List.mem_cons_self) whole
  · cases more with
    | nil =>
        rw [List.append_nil] at first
        exact ⟨String.toList_injective first, (String.toList_injective (List.cons.inj last).2).symm⟩
    | cons c more =>
        have inOption := (List.cons.inj last).2
        exact absurd (inOption ▸ List.mem_append_right _ List.mem_cons_self) whole'

theorem dotted_injective (inSection : String) : Function.Injective (dotted inSection) := by
  intro option option' same
  have lists := congrArg String.toList same
  rw [toList_dotted, toList_dotted] at lists
  exact String.toList_injective (List.cons.inj (List.append_cancel_left lists)).2

theorem Field.not_mem_holder (f : Field) : '.' ∉ f.holder.toList := by
  cases f <;> decide

theorem Field.not_mem_option (f : Field) : '.' ∉ f.option.toList := by
  cases f <;> decide

theorem Field.not_mem_name (f : Field) : '.' ∉ f.name.toList := by
  cases f <;> decide

theorem Field.name_ne_dotted (f : Field) (inSection option : String) : f.name ≠ dotted inSection option := by
  intro same
  refine f.not_mem_name ?_
  rw [same, toList_dotted]
  exact List.mem_append_right _ List.mem_cons_self

/-! ## What sections give -/

section Sections

variable {doc : Document} {inSection option name : String} {options listed : Options}
  {sections : List (String × Options)} {done entries : List (String × String)}

/-- The value of an option among others, with its references replaced. -/
def valueIn? (options listed : Options) (option : String) : Option String :=
  (get? option listed).bind fun raw => (expand options raw).toOption

/-- The value that sections give an option of one of them: its own or a default. -/
def givenBy? (doc : Document) (sections : List (String × Options)) (inSection option : String) :
    Option String :=
  (get? inSection sections).bind fun own => valueIn? (doc.optionsOf own) (doc.optionsOf own) option

theorem keys_readOptions (h : readOptions inSection options listed = .ok entries) :
    keys entries = (keys listed).map (dotted inSection) := by
  induction listed generalizing entries with
  | nil =>
      obtain rfl := Except.ok.inj h
      rfl
  | cons entry rest ih =>
      obtain ⟨name, raw⟩ := entry
      rw [readOptions] at h
      split at h
      · cases h
      · cases below : readOptions inSection options rest with
        | error f =>
            rw [below] at h
            cases h
        | ok read =>
            rw [below] at h
            obtain rfl := Except.ok.inj h
            exact congrArg (dotted inSection name :: ·) (ih below)

theorem get?_readOptions (whole : '.' ∉ inSection.toList) (whole' : '.' ∉ option.toList)
    (h : readOptions inSection options listed = .ok entries) :
    get? (dotted inSection option) entries = valueIn? options listed option := by
  induction listed generalizing entries with
  | nil =>
      obtain rfl := Except.ok.inj h
      rfl
  | cons entry rest ih =>
      obtain ⟨name, raw⟩ := entry
      rw [readOptions] at h
      split at h
      · cases h
      · next value expanded =>
          cases below : readOptions inSection options rest with
          | error f =>
              rw [below] at h
              cases h
          | ok read =>
              rw [below] at h
              obtain rfl := Except.ok.inj h
              rw [valueIn?, get?, get?]
              change (if dotted inSection name == dotted inSection option then some value else _) = _
              simp only [beq_iff_eq, dotted_inj whole whole', true_and]
              split
              · rw [Option.bind_some, expanded]
                rfl
              · exact ih below

/-- What sections are read as: what each gives, and what was there before. -/
theorem get?_readSections (onceDefaults : (keys doc.defaults).Nodup) (once : (keys sections).Nodup)
    (whole : '.' ∉ inSection.toList) (whole' : '.' ∉ option.toList)
    (h : readSections doc sections done = .ok entries) :
    get? (dotted inSection option) entries =
      (givenBy? doc sections inSection option).or (get? (dotted inSection option) done) := by
  induction sections generalizing done with
  | nil =>
      obtain rfl := Except.ok.inj h
      rfl
  | cons held rest ih =>
      obtain ⟨name, own⟩ := held
      obtain ⟨fresh, once⟩ := List.nodup_cons.mp once
      rw [readSections] at h
      split at h
      · cases h
      · next read listed =>
          have onceOptions : (keys (doc.optionsOf own)).Nodup := nodup_keys_putAll onceDefaults
          have onceRead : (keys read).Nodup := by
            rw [keys_readOptions listed]
            exact List.Pairwise.map _ (fun _ _ other same => other (dotted_injective name same)) onceOptions
          rw [ih once h, get?_putAll onceRead, givenBy?, givenBy?, get?]
          split
          · next same =>
              obtain rfl := eq_of_beq same
              rw [get?_eq_none_iff.mpr fresh, get?_readOptions whole whole' listed]
              rfl
          · next other =>
              have absent : get? (dotted inSection option) read = none := by
                rw [get?_eq_none_iff, keys_readOptions listed]
                intro member
                obtain ⟨option', _, same⟩ := List.mem_map.mp member
                exact other (beq_iff_eq.mpr ((dotted_inj whole whole').mp same).1)
              rw [absent, Option.none_or]

theorem nodup_keys_readSections (once : (keys done).Nodup)
    (h : readSections doc sections done = .ok entries) : (keys entries).Nodup := by
  induction sections generalizing done with
  | nil =>
      obtain rfl := Except.ok.inj h
      exact once
  | cons held rest ih =>
      rw [readSections] at h
      split at h
      · cases h
      · exact ih (nodup_keys_putAll once) h

/-- Every name that comes from a section has a dot. -/
theorem name_not_mem_readSections {f : Field} (absent : f.name ∉ keys done)
    (h : readSections doc sections done = .ok entries) : f.name ∉ keys entries := by
  induction sections generalizing done with
  | nil =>
      obtain rfl := Except.ok.inj h
      exact absent
  | cons held rest ih =>
      rw [readSections] at h
      split at h
      · cases h
      · next read listed =>
          refine ih ?_ h
          rw [mem_keys_putAll, not_or]
          refine ⟨?_, absent⟩
          rw [keys_readOptions listed]
          intro member
          obtain ⟨option, _, same⟩ := List.mem_map.mp member
          exact f.name_ne_dotted _ _ same.symm

end Sections

/-! ## What is assigned -/

/-- The texts that stand beside the names of a field, in order. -/
def namedFor (f : Field) (entries : List (String × String)) : List String :=
  (entries.filter fun entry => f.isNamed entry.1).map Prod.snd

theorem namedFor_cons (f : Field) (name raw : String) (rest : List (String × String)) :
    namedFor f ((name, raw) :: rest) =
      if f.isNamed name then raw :: namedFor f rest else namedFor f rest := by
  simp only [namedFor, List.filter_cons]
  split <;> rfl

theorem namedFor_append (f : Field) (entries more : List (String × String)) :
    namedFor f (entries ++ more) = namedFor f entries ++ namedFor f more := by
  simp only [namedFor, List.filter_append, List.map_append]

/-- A field that texts were assigned to, in order: it has what the last of them is converted to, and
    without any it is as it was. -/
def Decided (f : Field) (before : Datum) (texts : List String) (after : Datum) : Prop :=
  match texts.getLast? with
  | some raw => convert f raw = .ok after
  | none => after = before

theorem Decided.cons {f : Field} {before d after : Datum} {raw : String} {texts : List String}
    (converted : convert f raw = .ok d) (h : Decided f d texts after) :
    Decided f before (raw :: texts) after := by
  cases texts with
  | nil =>
      obtain rfl : after = d := h
      exact converted
  | cons => exact h

theorem decided_of_assign {s s' : Settings} {entries : List (String × String)}
    (h : assign s entries = .ok s') (f : Field) :
    Decided f (s.get f) (namedFor f entries) (s'.get f) ∧
      ∀ raw ∈ namedFor f entries, ∃ d, convert f raw = .ok d := by
  induction entries generalizing s with
  | nil =>
      obtain rfl := Except.ok.inj h
      exact ⟨rfl, fun raw member => by cases member⟩
  | cons entry rest ih =>
      obtain ⟨name, raw⟩ := entry
      have named : get? name fileNames = some f ↔ f.isNamed name = true := Field.get?_fileNames
      rw [assign] at h
      split at h
      · next unknown =>
          have skips : ¬ f.isNamed name = true := fun takes => by cases unknown.symm.trans (named.mpr takes)
          rw [namedFor_cons, if_neg skips]
          exact ih h
      · next field known =>
          split at h
          · next d converted =>
              obtain ⟨decided, all⟩ := ih h
              by_cases same : field = f
              · subst same
                rw [Field.get_set_self] at decided
                rw [namedFor_cons, if_pos (named.mp known)]
                exact ⟨decided.cons converted, List.forall_mem_cons.mpr ⟨⟨d, converted⟩, all⟩⟩
              · have skips : ¬ f.isNamed name = true := fun takes =>
                  same (Option.some.inj (known.symm.trans (named.mpr takes)))
                rw [Field.get_set_of_ne _ _ same] at decided
                rw [namedFor_cons, if_neg skips]
                exact ⟨decided, all⟩
          · cases h

/-! ## What documents decide -/

section Deciding

variable {doc : Document} {f : Field} {entries : List (String × String)}

/-- The value that the section of a field gives it: that of its own option or of a default, with
    references replaced. -/
def given? (doc : Document) (f : Field) : Option String := givenBy? doc doc.sections f.holder f.option

/-- The texts that stand in for a field, in order: what the defaults have under the field's own name, and
    under the name of its place where the section does not give it. They are as they are written. -/
def standIns (doc : Document) (f : Field) : List String :=
  (doc.defaults.filter fun entry =>
    entry.1 == f.name || (entry.1 == f.placeName && (given? doc f).isNone)).map Prod.snd

/-- The text that decides a field: the last of those that stand in for it, else what its section gives. -/
def deciding? (doc : Document) (f : Field) : Option String := (standIns doc f).getLast?.or (given? doc f)

/-- Where every name stands once and a name is not among them, only the other name counts. -/
theorem filter_key_eq (once : (keys entries).Nodup) (key : String) :
    entries.filter (fun entry => entry.1 == key) = ((get? key entries).map (key, ·)).toList := by
  induction entries with
  | nil => rfl
  | cons entry rest ih =>
      obtain ⟨name, raw⟩ := entry
      obtain ⟨fresh, once⟩ := List.nodup_cons.mp once
      rw [List.filter_cons, get?, ih once]
      split
      · next same =>
          obtain rfl := eq_of_beq same
          rw [get?_eq_none_iff.mpr fresh]
          rfl
      · rfl

theorem namedFor_readDocument (once : doc.NamesOnce) (h : readDocument doc = .ok entries) :
    namedFor f entries = (given? doc f).toList ++ standIns doc f := by
  rw [readDocument] at h
  obtain ⟨read, sections, same⟩ := bind_eq_ok.mp h
  obtain rfl := Except.ok.inj same
  have unnamed : f.name ∉ keys read := name_not_mem_readSections List.not_mem_nil sections
  have onceStart : (keys ([] : List (String × String))).Nodup := .nil
  have onceRead : (keys read).Nodup := nodup_keys_readSections onceStart sections
  have place : get? f.placeName read = given? doc f := by
    rw [Field.placeName, get?_readSections once.defaults once.sections f.not_mem_holder
      f.not_mem_option sections]
    exact Option.or_none
  rw [namedFor_append]
  congr 1
  · have only : read.filter (fun entry => f.isNamed entry.1) =
        read.filter fun entry => entry.1 == f.placeName := by
      refine List.filter_congr fun entry member => ?_
      have other : (entry.1 == f.name) = false :=
        beq_eq_false_iff_ne.mpr fun same => unnamed (same ▸ mem_keys_of_mem member)
      rw [Field.isNamed, other, Bool.false_or]
    rw [namedFor, only, filter_key_eq onceRead, place]
    cases given? doc f <;> rfl
  · rw [namedFor, standIns, List.filter_filter]
    congr 1
    refine List.filter_congr fun entry _ => ?_
    rw [Field.isNamed]
    by_cases own : entry.1 = f.name
    · have absent : has entry.1 read = false := has_eq_false_iff.mpr (own ▸ unnamed)
      rw [absent, beq_iff_eq.mpr own]
      rfl
    · rw [beq_eq_false_iff_ne.mpr own, Bool.false_or, Bool.false_or]
      by_cases placed : entry.1 = f.placeName
      · rw [placed, has, place, Option.not_isSome]
      · rw [beq_eq_false_iff_ne.mpr placed]
        rfl

theorem valueIn?_eq_some {options : Options} {option raw value : String}
    (listed : get? option options = some raw) (expanded : expand options raw = .ok value) :
    valueIn? options options option = some value := by
  rw [valueIn?, listed, Option.bind_some, expanded]
  rfl

/-- What a section sets itself is what it gives, with references replaced. -/
theorem exists_given?_of_mem {own : Options} {raw : String} (once : doc.NamesOnce) (readable : doc.Readable)
    (holds : (f.holder, own) ∈ doc.sections) (sets : (f.option, raw) ∈ own) :
    ∃ value, expand (doc.optionsOf own) raw = .ok value ∧ given? doc f = some value := by
  have ruling : get? f.option (doc.optionsOf own) = some raw := by
    rw [Document.optionsOf, get?_putAll (once.options _ _ holds),
      (get?_eq_some_iff (once.options _ _ holds)).mpr sets]
    rfl
  obtain ⟨value, expanded⟩ : ∃ value, expand (doc.optionsOf own) raw = .ok value := by
    cases expanded : expand (doc.optionsOf own) raw with
    | ok value => exact ⟨value, rfl⟩
    | error e =>
        exact absurd (exists_expand_eq_error_iff.mp ⟨e, expanded⟩)
          (readable _ holds _ (mem_of_get?_eq_some ruling))
  refine ⟨value, expanded, ?_⟩
  rw [given?, givenBy?, (get?_eq_some_iff once.sections).mpr holds]
  exact valueIn?_eq_some ruling expanded

/-- Where a section gives a field, the only text that stands in for it is that under its own name. -/
theorem standIns_of_given {value : String} (once : doc.NamesOnce) (given : given? doc f = some value) :
    standIns doc f = (get? f.name doc.defaults).toList := by
  have only : (doc.defaults.filter fun entry =>
      entry.1 == f.name || (entry.1 == f.placeName && (given? doc f).isNone)) =
      doc.defaults.filter fun entry => entry.1 == f.name := by
    refine List.filter_congr fun entry _ => ?_
    rw [given, Option.isNone_some, Bool.and_false, Bool.or_false]
  rw [standIns, only, filter_key_eq once.defaults]
  cases get? f.name doc.defaults <;> rfl

theorem namesOnce_of_documentAt {t : Files.Tree} {path : String} (h : documentAt t path = .ok doc) :
    doc.NamesOnce := by
  unfold documentAt at h
  split at h
  · obtain rfl := Except.ok.inj h
    exact Document.namesOnce_empty
  · split at h
    · next parsed =>
        obtain rfl := Except.ok.inj h
        exact Document.namesOnce_of_ofSource parsed
    · cases h

end Deciding

/-- Whatever was loaded, every field is converted from the text that decides it, and is a default where
    there is none. So what a section sets itself is what the field has, after references were replaced,
    exactly if nothing stands in the defaults under the field's own name that is converted to something
    else. -/
theorem get_of_load {t : Files.Tree} {path : String} {s : Settings} {notes : List Log.Note}
    (h : load t path = .ok (s, notes)) :
    ∃ doc, documentAt t path = .ok doc ∧ ∀ f : Field,
      (match deciding? doc f with
        | some raw => convert f raw = .ok (s.get f)
        | none => s.get f = ({} : Settings).get f) ∧
      ∀ own raw, (f.holder, own) ∈ doc.sections → (f.option, raw) ∈ own →
        ∃ value d, expand (doc.optionsOf own) raw = .ok value ∧ convert f value = .ok d ∧
          (s.get f = d ↔ ∀ standIn, (f.name, standIn) ∈ doc.defaults → convert f standIn = .ok d) := by
  have ends := loading t path
  rw [h] at ends
  cases ends with
  | loaded doc entries _ _ _ document readable read assigned _ =>
      have once := namesOnce_of_documentAt document
      refine ⟨doc, document, fun f => ?_⟩
      obtain ⟨decided, all⟩ := decided_of_assign assigned f
      rw [namedFor_readDocument once read] at decided all
      rw [Decided, List.getLast?_append] at decided
      have law : (match deciding? doc f with
          | some raw => convert f raw = .ok (s.get f)
          | none => s.get f = ({} : Settings).get f) := by
        have last : (given? doc f).toList.getLast? = given? doc f := by cases given? doc f <;> rfl
        rwa [last] at decided
      refine ⟨law, fun own raw holds sets => ?_⟩
      obtain ⟨value, expanded, given⟩ := exists_given?_of_mem once readable holds sets
      rw [given, standIns_of_given once given] at all
      obtain ⟨d, converted⟩ := all value List.mem_cons_self
      refine ⟨value, d, expanded, converted, ?_⟩
      rw [deciding?, given, standIns_of_given once given] at law
      simp only [← get?_eq_some_iff once.defaults]
      cases standing : get? f.name doc.defaults with
      | none =>
          rw [standing] at law
          have same : s.get f = d := Except.ok.inj (law.symm.trans converted)
          exact ⟨fun _ _ h => (by cases h), fun _ => same⟩
      | some standIn =>
          rw [standing] at law
          have law : convert f standIn = .ok (s.get f) := law
          simp only [Option.some.injEq, forall_eq']
          exact ⟨fun same => same ▸ law, fun same => Except.ok.inj (law.symm.trans same)⟩

/-! ### A default that wins -/

/-- A tree with a file in which a section sets the key size and the public exponent, and the defaults have
    the key size under its own name. -/
def overruledTree : Files.Tree :=
  ⟨[(Files.Place.here.child "c.ini", .file (Text.utf8
    "[DEFAULT]\nkey_size = 2048\n[keys]\nsize = 4096\npublic_exponent = 3\n").toByteArray)]⟩

/-- The document in that file. -/
def overruledDocument : Document :=
  ⟨[("key_size", "2048")], [("keys", [("size", "4096"), ("public_exponent", "3")])]⟩

/-- The key size and the public exponent that loading gives. -/
def keysOfLoad (t : Files.Tree) (path : String) : Option (Option Int × Option Int) :=
  match load t path with
  | .ok (s, _) => some (s.keySize.int?, s.publicExponent.int?)
  | .error _ => none

theorem keysOfLoad_overruled : keysOfLoad overruledTree "c.ini" = some (some 2048, some 3) := by
  decide +kernel

theorem documentAt_overruled : documentAt overruledTree "c.ini" = .ok overruledDocument := by
  have parsed : (documentAt overruledTree "c.ini").toOption = some overruledDocument := by decide +kernel
  cases h : documentAt overruledTree "c.ini" with
  | ok doc =>
      rw [h] at parsed
      exact congrArg Except.ok (Option.some.inj parsed)
  | error f =>
      rw [h] at parsed
      cases parsed

/-- The key size is the default's, the public exponent is what its section sets. -/
theorem get_of_load_overruled :
    ∃ s notes, load overruledTree "c.ini" = .ok (s, notes) ∧
      s.get .keySize = .int 2048 ∧ s.get .publicExponent = .int 3 := by
  have loaded := keysOfLoad_overruled
  unfold keysOfLoad at loaded
  split at loaded
  · next s notes h =>
      obtain ⟨doc, document, all⟩ := get_of_load h
      obtain rfl := Except.ok.inj (documentAt_overruled.symm.trans document)
      obtain ⟨ruling, -⟩ := all .keySize
      obtain ⟨-, own⟩ := all .publicExponent
      obtain ⟨value, d, expanded, converted, same⟩ := own _ "3" List.mem_cons_self (by decide)
      have size : deciding? overruledDocument .keySize = some "2048" := by decide +kernel
      have unchanged : expand (overruledDocument.optionsOf [("size", "4096"), ("public_exponent", "3")])
          "3" = .ok "3" := by decide +kernel
      have taken : Integer.read "2048" = .ok 2048 := by decide +kernel
      have given : Integer.read "3" = .ok 3 := by decide +kernel
      rw [size] at ruling
      obtain rfl : "3" = value := Except.ok.inj (unchanged.symm.trans expanded)
      refine ⟨s, notes, h, ?_, ?_⟩
      · have ruling : (Integer.read "2048").map Datum.int = .ok (s.get .keySize) := ruling
        rw [taken] at ruling
        exact (Except.ok.inj ruling).symm
      · have converted : (Integer.read "3").map Datum.int = .ok d := converted
        rw [given] at converted
        obtain rfl := Except.ok.inj converted
        refine same.mpr fun standIn member => ?_
        have same : "public_exponent" = "key_size" := (Prod.mk.inj (List.mem_singleton.mp member)).1
        exact absurd same (by decide)
  · cases loaded

/-- A section sets the key size to 4096, and it is loaded as 2048. -/
theorem own_value_overruled :
    ∃ own s notes, load overruledTree "c.ini" = .ok (s, notes) ∧
      documentAt overruledTree "c.ini" = .ok overruledDocument ∧
      (Field.keySize.holder, own) ∈ overruledDocument.sections ∧ (Field.keySize.option, "4096") ∈ own ∧
      expand (overruledDocument.optionsOf own) "4096" = .ok "4096" ∧
      convert .keySize "4096" = .ok (.int 4096) ∧ s.get .keySize ≠ .int 4096 := by
  have loaded := keysOfLoad_overruled
  unfold keysOfLoad at loaded
  split at loaded
  · next s notes h =>
      refine ⟨_, s, notes, h, documentAt_overruled, List.mem_cons_self, List.mem_cons_self,
        by decide +kernel, ?_, fun same => ?_⟩
      · have given : Integer.read "4096" = .ok 4096 := by decide +kernel
        change (Integer.read "4096").map Datum.int = _
        rw [given]
        rfl
      · obtain ⟨size, -⟩ := Prod.mk.inj (Option.some.inj loaded)
        change s.keySize = .int 4096 at same
        rw [same] at size
        cases size
  · cases loaded

end CertMint.Settings
