import CertMint.Proofs.Origins
import CertMint.Proofs.Saving

/-! # Fields and their places

A document without defaults and without percent signs says something about settings in nine places only, one
for each field. What it says in the place of a field decides that field and no other; a field whose place is
empty has its default. So two documents that agree in the nine places give the same settings, or neither gives
any, whatever else they hold and in whatever order.
-/

namespace CertMint

namespace Ini

open Keyed

variable {doc : Document} {own options : Options} {value : String}

/-- The value that a section of a document sets an option to. -/
def Document.value? (doc : Document) (inSection option : String) : Option String :=
  (get? inSection doc.sections).bind fun own => get? option own

/-- A document without defaults, in which no value has a percent sign. -/
structure Document.Plain (doc : Document) : Prop where
  noDefaults : doc.defaults = []
  noPercent : ∀ name own, (name, own) ∈ doc.sections → ∀ option value, (option, value) ∈ own →
    '%' ∉ value.toList

theorem expand_of_not_mem (plain : '%' ∉ value.toList) (options : Options) :
    expand options value = .ok value := by
  have same : ∀ c ∈ value.toList, doubled c = [c] := by
    intro c member
    apply doubled_of_ne
    rintro rfl
    exact plain member
  have unescaped : escape value = value := by
    rw [escape, List.flatMap_congr same]
    simp
  rw [← unescaped, expand_escape, unescaped]

namespace Document.Plain

theorem optionsOf_eq (plain : doc.Plain) (once : (keys own).Nodup) : doc.optionsOf own = own := by
  rw [Document.optionsOf, plain.noDefaults]
  exact putAll_of_disjoint once

/-- Nothing in a plain document keeps it from being read. -/
theorem readable (plain : doc.Plain) (once : doc.NamesOnce) : doc.Readable := by
  intro held inside entry member broken
  obtain ⟨name, own⟩ := held
  rw [plain.optionsOf_eq (once.options name own inside)] at member broken
  obtain ⟨e, failed⟩ := exists_expand_eq_error_iff.mpr broken
  rw [expand_of_not_mem (plain.noPercent name own inside _ _ member)] at failed
  cases failed

end Document.Plain

end Ini

namespace Settings

open Ini Keyed

variable {t t' : Files.Tree} {path path' text text' : String} {doc doc' : Document} {s s' : Settings} {f : Field}
  {entries : List (String × String)}

theorem ext_get (same : ∀ f : Field, s.get f = s'.get f) : s = s' := by
  rw [← foldl_set s s, ← foldl_set s s']
  simp only [same]

/-! ## What a document says -/

/-- Settings that are what a document says: each field has what stands in its place, converted, and its
    default if nothing stands there. -/
def Stated (doc : Document) (s : Settings) : Prop :=
  ∀ f : Field, match doc.value? f.holder f.option with
    | some raw => convert f raw = .ok (s.get f)
    | none => s.get f = ({} : Settings).get f

/-- The place of a field decides it. -/
theorem Stated.get_eq (stated : Stated doc s) (stated' : Stated doc' s')
    (agree : doc.value? f.holder f.option = doc'.value? f.holder f.option) : s.get f = s'.get f := by
  have first := stated f
  have second := stated' f
  rw [agree] at first
  split at first
  · next raw found =>
      rw [found] at second
      exact Except.ok.inj (first.symm.trans second)
  · next found =>
      rw [found] at second
      exact first.trans second.symm

theorem Stated.congr (stated : Stated doc s)
    (agree : ∀ f : Field, doc.value? f.holder f.option = doc'.value? f.holder f.option) : Stated doc' s := by
  intro f
  rw [← agree f]
  exact stated f

theorem given?_eq (plain : doc.Plain) (once : doc.NamesOnce) :
    given? doc f = doc.value? f.holder f.option := by
  rw [given?, givenBy?, Document.value?]
  cases held : get? f.holder doc.sections with
  | none => rfl
  | some own =>
      have inside := mem_of_get?_eq_some held
      simp only [Option.bind_some, valueIn?, plain.optionsOf_eq (once.options _ _ inside)]
      cases found : get? f.option own with
      | none => rfl
      | some raw =>
          have member := mem_of_get?_eq_some found
          simp [expand_of_not_mem (plain.noPercent _ _ inside _ _ member), Except.toOption]

/-- Of all that is read from a plain document, only what stands in its place is under the names of a field. -/
theorem namedFor_eq (plain : doc.Plain) (once : doc.NamesOnce) (read : readDocument doc = .ok entries) :
    namedFor f entries = (doc.value? f.holder f.option).toList := by
  rw [namedFor_readDocument once read, given?_eq plain once]
  simp [standIns, plain.noDefaults]

theorem exists_assign (converted : ∀ f : Field, ∀ raw ∈ namedFor f entries, ∃ d, convert f raw = .ok d) :
    ∃ s', assign s entries = .ok s' := by
  induction entries generalizing s with
  | nil => exact ⟨s, rfl⟩
  | cons entry rest ih =>
      obtain ⟨name, raw⟩ := entry
      have others : ∀ f : Field, ∀ raw ∈ namedFor f rest, ∃ d, convert f raw = .ok d := by
        intro f raw' member
        apply converted f raw'
        rw [namedFor_cons]
        split
        · exact List.mem_cons_of_mem _ member
        · exact member
      rw [assign]
      cases known : get? name fileNames with
      | none => exact ih others
      | some f =>
          have first : raw ∈ namedFor f ((name, raw) :: rest) := by
            rw [namedFor_cons, if_pos (Field.get?_fileNames.mp known)]
            exact List.mem_cons_self
          obtain ⟨d, taken⟩ := converted f raw first
          simp only [taken]
          exact ih others

/-- What is assigned from a plain document is what the document says, and nothing else can be. -/
theorem assign_eq_ok_iff_stated (plain : doc.Plain) (once : doc.NamesOnce) (read : readDocument doc = .ok entries) :
    assign {} entries = .ok s ↔ Stated doc s := by
  have sound {s : Settings} (assigned : assign {} entries = .ok s) : Stated doc s := by
    intro f
    obtain ⟨decided, -⟩ := decided_of_assign assigned f
    rw [namedFor_eq plain once read, Decided] at decided
    cases found : doc.value? f.holder f.option with
    | none => simpa [found] using decided
    | some raw => simpa [found] using decided
  constructor
  · exact sound
  · intro stated
    have converted : ∀ f : Field, ∀ raw ∈ namedFor f entries, ∃ d, convert f raw = .ok d := by
      intro f raw member
      rw [namedFor_eq plain once read, Option.mem_toList] at member
      have taken := stated f
      rw [Option.mem_def.mp member] at taken
      exact ⟨s.get f, taken⟩
    obtain ⟨s', assigned⟩ := exists_assign (s := {}) converted
    have same : s' = s := ext_get fun f => (sound assigned).get_eq stated rfl
    rw [assigned, same]

/-! ## Loading -/

/-- A file with a plain document is loaded exactly as the settings that the document says, if they are
    accepted. -/
theorem exists_load_iff_stated (read : t.read path = .ok text.toUTF8)
    (parsed : Document.ofSource (.ofText text) = .ok doc) (plain : doc.Plain) :
    (∃ notes, load t path = .ok (s, notes)) ↔ Stated doc s ∧ s.check = .ok s := by
  have once := Document.namesOnce_of_ofSource parsed
  have decoded : Text.ofUtf8? text.toUTF8.toList = some text := by
    rw [Text.toList_toUTF8, Text.ofUtf8?_utf8]
  obtain ⟨entries, entered⟩ : ∃ entries, readDocument doc = .ok entries := by
    rcases readDocument_endings doc with ⟨-, entered⟩ | ⟨unreadable, -⟩
    · exact entered
    · exact absurd (plain.readable once) unreadable
  rw [exists_load_iff_of_read read]
  simp only [decoded, Option.some.injEq, exists_eq_left', ofText?_eq_some_iff, parsed, Except.ok.injEq]
  constructor
  · rintro ⟨_, entries', rfl, entered', assigned, accepted⟩
    exact ⟨(assign_eq_ok_iff_stated plain once entered').mp assigned, accepted⟩
  · rintro ⟨stated, accepted⟩
    exact ⟨doc, entries, rfl, entered, (assign_eq_ok_iff_stated plain once entered).mpr stated, accepted⟩

theorem isValue_of_load {e : Fault} (read : t.read path = .ok text.toUTF8)
    (parsed : Document.ofSource (.ofText text) = .ok doc) (plain : doc.Plain)
    (failed : load t path = .error e) : e.kind.isValue = true := by
  have decoded : Text.ofUtf8? text.toUTF8.toList = some text := by
    rw [Text.toList_toUTF8, Text.ofUtf8?_utf8]
  have document := (documentAt_eq_ok_iff read).mpr ⟨text, decoded, parsed⟩
  have present := Files.Tree.exists_of_read read
  have ends := loading t path
  rw [failed] at ends
  cases ends with
  | missing absent => cases present.symm.trans absent
  | refused _ _ kind => exact kind
  | broken doc' _ _ document' unreadable =>
      obtain rfl := Except.ok.inj (document.symm.trans document')
      exact absurd (plain.readable (Document.namesOnce_of_ofSource parsed)) unreadable

/-- Two files with plain documents, in whatever trees they stand. What is loaded from one of them is what it
    says in the nine places. Where both agree in the place of a field, they give it the same datum, whatever they
    say elsewhere. Where they agree in all nine, the same settings are loaded from both, or both are refused with
    a wrong value. -/
theorem load_of_places (read : t.read path = .ok text.toUTF8) (read' : t'.read path' = .ok text'.toUTF8)
    (parsed : Document.ofSource (.ofText text) = .ok doc) (parsed' : Document.ofSource (.ofText text') = .ok doc')
    (plain : doc.Plain) (plain' : doc'.Plain) :
    (∀ s notes, load t path = .ok (s, notes) → Stated doc s) ∧
    (∀ f : Field, doc.value? f.holder f.option = doc'.value? f.holder f.option →
      ∀ s notes s' notes', load t path = .ok (s, notes) → load t' path' = .ok (s', notes') →
        s.get f = s'.get f) ∧
    ((∀ f : Field, doc.value? f.holder f.option = doc'.value? f.holder f.option) →
      (∃ s notes notes', load t path = .ok (s, notes) ∧ load t' path' = .ok (s, notes')) ∨
        ∃ e e', load t path = .error e ∧ load t' path' = .error e' ∧
          e.kind.isValue = true ∧ e'.kind.isValue = true) := by
  have stated {s : Settings} {notes : List Log.Note} (loaded : load t path = .ok (s, notes)) : Stated doc s :=
    ((exists_load_iff_stated read parsed plain).mp ⟨notes, loaded⟩).1
  have stated' {s : Settings} {notes : List Log.Note} (loaded : load t' path' = .ok (s, notes)) : Stated doc' s :=
    ((exists_load_iff_stated read' parsed' plain').mp ⟨notes, loaded⟩).1
  refine ⟨fun s notes loaded => stated loaded, ?_, ?_⟩
  · intro f agree s notes s' notes' loaded loaded'
    exact (stated loaded).get_eq (stated' loaded') agree
  · intro agree
    have alike (s : Settings) : (∃ notes, load t path = .ok (s, notes)) ↔
        ∃ notes, load t' path' = .ok (s, notes) := by
      rw [exists_load_iff_stated read parsed plain, exists_load_iff_stated read' parsed' plain']
      constructor
      · rintro ⟨stated, accepted⟩
        exact ⟨stated.congr agree, accepted⟩
      · rintro ⟨stated, accepted⟩
        exact ⟨stated.congr fun f => (agree f).symm, accepted⟩
    cases loaded : load t path with
    | ok r =>
        obtain ⟨s, notes⟩ := r
        obtain ⟨notes', loaded'⟩ := (alike s).mp ⟨notes, loaded⟩
        exact .inl ⟨s, notes, notes', rfl, loaded'⟩
    | error e =>
        cases loaded' : load t' path' with
        | ok r =>
            obtain ⟨s, notes⟩ := r
            obtain ⟨notes', again⟩ := (alike s).mpr ⟨notes, loaded'⟩
            cases loaded.symm.trans again
        | error e' =>
            exact .inr ⟨e, e', rfl, rfl, isValue_of_load read parsed plain loaded,
              isValue_of_load read' parsed' plain' loaded'⟩

/-! ### Two files that agree -/

def bareText : String := "[keys]\nsize=4096\n[app]\nlog_level: debug\n"

/-- The same settings in another order, among comments, other sections and options that resemble the names of
    fields. -/
def crowdedText : String :=
  "# notes\n[other]\nkeys.size = 1\n[app]\nkey_size = 2\nLOG_LEVEL = debug\n; more\n\n[Keys]\nsize = 3\n"
    ++ "[keys]\nkeys.size = 5\nSize : 4096\n"

def bareDocument : Document := ⟨[], [("keys", [("size", "4096")]), ("app", [("log_level", "debug")])]⟩

def crowdedDocument : Document :=
  ⟨[], [("other", [("keys.size", "1")]), ("app", [("key_size", "2"), ("log_level", "debug")]),
    ("Keys", [("size", "3")]), ("keys", [("keys.size", "5"), ("size", "4096")])]⟩

def agreeingTree : Files.Tree :=
  ⟨[(Files.Place.here.child "c.ini", .file bareText.toUTF8),
    (Files.Place.here.child "d.ini", .file crowdedText.toUTF8)]⟩

/-- Whether no value of a document has a percent sign. -/
def lacksPercent (doc : Document) : Bool :=
  doc.sections.all fun held => held.2.all fun entry => !entry.2.toList.contains '%'

theorem plain_of_lacksPercent (noDefaults : doc.defaults = []) (lacks : lacksPercent doc = true) :
    doc.Plain where
  noDefaults := noDefaults
  noPercent name own inside option value member := by
    have section_ := List.all_eq_true.mp lacks _ inside
    have entry := List.all_eq_true.mp section_ _ member
    simpa using entry

/-- The settings that both files give differ from the defaults. -/
theorem load_of_places_agreeing :
    ∃ s notes notes', load agreeingTree "c.ini" = .ok (s, notes) ∧ load agreeingTree "d.ini" = .ok (s, notes') ∧
      s.get .keySize = .int 4096 ∧ s.get .logLevel = .text "DEBUG" ∧ s.get .publicExponent = .int 65537 := by
  have read : agreeingTree.read "c.ini" = .ok bareText.toUTF8 := rfl
  have read' : agreeingTree.read "d.ini" = .ok crowdedText.toUTF8 := rfl
  have parsed : Document.ofSource (.ofText bareText) = .ok bareDocument :=
    toOption_eq_some_iff.mp (by decide +kernel)
  have parsed' : Document.ofSource (.ofText crowdedText) = .ok crowdedDocument :=
    toOption_eq_some_iff.mp (by decide +kernel)
  have plain : bareDocument.Plain := plain_of_lacksPercent rfl (by decide +kernel)
  have plain' : crowdedDocument.Plain := plain_of_lacksPercent rfl (by decide +kernel)
  obtain ⟨stated, -, alike⟩ := load_of_places read read' parsed parsed' plain plain'
  have agree : ∀ f : Field, bareDocument.value? f.holder f.option = crowdedDocument.value? f.holder f.option := by
    intro f
    cases f <;> decide +kernel
  have loads : (load agreeingTree "c.ini").toBool = true := by decide +kernel
  rcases alike agree with ⟨s, notes, notes', loaded, loaded'⟩ | ⟨e, _, failed, -⟩
  · have taken := stated s notes loaded
    have size : convert .keySize "4096" = .ok (s.get .keySize) := taken .keySize
    have level : convert .logLevel "debug" = .ok (s.get .logLevel) := taken .logLevel
    have digits : Integer.read "4096" = .ok 4096 := by decide +kernel
    have upper : Text.upper (Text.trim "debug") = "DEBUG" := by decide +kernel
    refine ⟨s, notes, notes', loaded, loaded', ?_, ?_, taken .publicExponent⟩
    · simpa [convert, digits, Except.map] using size.symm
    · simpa [convert, upper] using level.symm
  · rw [failed] at loads
    cases loads

end Settings

end CertMint
