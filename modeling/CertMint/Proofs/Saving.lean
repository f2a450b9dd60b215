import CertMint.Proofs.Escapes
import CertMint.Proofs.Numerals
import CertMint.Proofs.Precedence
import CertMint.Proofs.Trees

/-! # Settings that a file carries

Settings are written to a file section by section, in the layout of the file with the default settings,
with every percent sign in a value doubled. Loading the file gives the settings back.
-/

namespace CertMint.Settings

open Ini Keyed Text

/-! ## The file -/

/-- What a file has for a datum, before percent signs are doubled. -/
def textFor : Datum → String
  | .int i => toString i
  | .text s => s
  | _ => ""

/-- The first line of a settings file. -/
def title : String := "Certificate Fixture Generator Configuration File"

/-- The sections of a settings file, in order. -/
def holders : List String := ["keys", "signature", "validity", "app"]

/-- The sections of a settings file with the values of settings. -/
def sections (s : Settings) : List (String × Options) :=
  holders.map fun holder =>
    (holder, (Field.all.filter (·.holder == holder)).map fun f => (f.option, textFor (s.get f)))

/-- The text of a file with settings. -/
def fileText (s : Settings) : String :=
  textOf (documentLines title (mapValues (mapValues escape) s.sections))

/-- The file with the default settings has this layout. -/
theorem fileText_default : fileText {} = defaultFile := by
  decide +kernel

namespace Field

/-- Whether a field has a number. -/
def isNumber : Field → Bool
  | .signatureHash | .logLevel | .logFile => false
  | _ => true

end Field

/-- The path of a log file that stands on one line and has no blanks at its ends. -/
structure PlainPath (path : String) : Prop where
  nonempty : path ≠ ""
  oneLine : OneLine path
  trimmed : trim path = path

/-- Settings whose numbers are no longer than those that are read, and whose log file, if there is one,
    has a plain path. -/
structure Portable (s : Settings) : Prop where
  numbers : ∀ f : Field, f.isNumber = true → ∃ i, s.get f = .int i ∧ i.natAbs < 10 ^ Integer.maxDigits
  logFile : s.logFile = .none ∨ ∃ path, s.logFile = .text path ∧ PlainPath path

/-! ## Sections -/

section Reading

variable {doc : Document} {sections : List (String × Options)} {done : List (String × String)}

/-- The options of a section under the names under which they are read. -/
def placed (held : String × Options) : List (String × String) :=
  held.2.map fun entry => (dotted held.1 entry.1, entry.2)

theorem readOptions_escape (inSection : String) (options listed : Options) :
    readOptions inSection options (mapValues escape listed) = .ok (placed (inSection, listed)) := by
  induction listed with
  | nil => rfl
  | cons entry rest ih =>
      obtain ⟨name, raw⟩ := entry
      have step : mapValues escape ((name, raw) :: rest) =
          (name, escape raw) :: mapValues escape rest := rfl
      rw [step, readOptions, expand_escape]
      dsimp only
      rw [ih]
      rfl

theorem readSections_escape (noDefaults : doc.defaults = [])
    (once : ∀ held ∈ sections, (keys held.2).Nodup) :
    readSections doc (mapValues (mapValues escape) sections) done =
      .ok (putAll (sections.flatMap placed) done) := by
  induction sections generalizing done with
  | nil => rfl
  | cons held rest ih =>
      obtain ⟨name, own⟩ := held
      obtain ⟨first, others⟩ := List.forall_mem_cons.mp once
      have step : mapValues (mapValues escape) ((name, own) :: rest) =
          (name, mapValues escape own) :: mapValues (mapValues escape) rest := rfl
      have same : doc.optionsOf (mapValues escape own) = mapValues escape own := by
        rw [Document.optionsOf, noDefaults, putAll_of_disjoint, List.nil_append]
        rw [List.nil_append, keys_mapValues]
        exact first
      rw [step, readSections, same, readOptions_escape]
      dsimp only
      rw [ih others, List.flatMap_cons, putAll_append]

theorem readDocument_escape (once : ∀ held ∈ sections, (keys held.2).Nodup)
    (onceNamed : (keys (sections.flatMap placed)).Nodup) :
    readDocument ⟨[], mapValues (mapValues escape) sections⟩ = .ok (sections.flatMap placed) := by
  have read : putAll (sections.flatMap placed) [] = sections.flatMap placed :=
    putAll_of_disjoint onceNamed
  rw [readDocument, readSections_escape rfl once, read]
  exact congrArg Except.ok (List.append_nil _)

end Reading

/-! ## Fields -/

section Fields

variable {s s' : Settings} {f : Field}

theorem exists_logLevel (accepted : s.check = .ok s) : ∃ name ∈ logLevels, s.logLevel = .text name := by
  have passes : logLevels.any (fun l => Datum.same s.logLevel (.text l)) = true := by
    grind [check, flaw?]
  obtain ⟨name, member, same⟩ := List.any_eq_true.mp passes
  exact ⟨name, member, eq_text_of_same same⟩

theorem convert_of_isNumber (number : f.isNumber = true) (raw : String) :
    convert f raw = (Integer.read raw).map .int := by
  cases f with
  | signatureHash | logLevel | logFile => cases number
  | _ => rfl

/-- What a field of settings that are accepted and portable has: a number, one of some names, nothing, or
    the path of the log file. -/
inductive Carries : Field → Datum → Prop where
  | number {f : Field} {i : Int} (isNumber : f.isNumber = true)
      (short : i.natAbs < 10 ^ Integer.maxDigits) : Carries f (.int i)
  | signatureHash {name : String} (member : name ∈ signatureHashes) : Carries .signatureHash (.text name)
  | logLevel {name : String} (member : name ∈ logLevels) : Carries .logLevel (.text name)
  | noLogFile : Carries .logFile .none
  | logFile {path : String} (plain : PlainPath path) : Carries .logFile (.text path)

theorem carries (accepted : s.check = .ok s) (portable : s.Portable) (f : Field) : Carries f (s.get f) := by
  have number (f : Field) (isNumber : f.isNumber = true) : Carries f (s.get f) := by
    obtain ⟨i, same, short⟩ := portable.numbers f isNumber
    rw [same]
    exact .number isNumber short
  cases f with
  | signatureHash =>
      obtain ⟨name, member, same⟩ := (accepted_of_check accepted).2.signatureHash
      change Carries _ s.signatureHash
      rw [same]
      exact .signatureHash member
  | logLevel =>
      obtain ⟨name, member, same⟩ := exists_logLevel accepted
      change Carries _ s.logLevel
      rw [same]
      exact .logLevel member
  | logFile =>
      change Carries _ s.logFile
      rcases portable.logFile with same | ⟨path, same, plain⟩
      · rw [same]
        exact .noLogFile
      · rw [same]
        exact .logFile plain
  | _ => exact number _ rfl

namespace Carries

variable {d : Datum}

/-- What is written for a field is read as what it has. -/
theorem convert (h : Carries f d) : convert f (textFor d) = .ok d := by
  cases h with
  | number isNumber short =>
      rw [convert_of_isNumber isNumber, textFor, Integer.read_toString short]
      rfl
  | signatureHash member =>
      have same : ∀ name ∈ signatureHashes, upper (trim name) = name := by decide +kernel
      exact congrArg (fun name => Except.ok (Datum.text name)) (same _ member)
  | logLevel member =>
      have same : ∀ name ∈ logLevels, upper (trim name) = name := by decide +kernel
      exact congrArg (fun name => Except.ok (Datum.text name)) (same _ member)
  | noLogFile => rfl
  | @logFile path plain =>
      have some_ : ¬ path.isEmpty = true := by simpa using plain.nonempty
      have same : Settings.convert .logFile (textFor (.text path)) =
          .ok (if (trim path).isEmpty then .none else .text (trim path)) := rfl
      rw [same, plain.trimmed, if_neg some_]

theorem plainValue (h : Carries f d) : PlainValue (textFor d) := by
  cases h with
  | number => exact Integer.plainValue_toString _
  | signatureHash member =>
      have solid : ∀ name ∈ signatureHashes, isSolid name.toList = true := by decide +kernel
      exact plainValue_of_solid (isSolid_iff.mp (solid _ member))
  | logLevel member =>
      have solid : ∀ name ∈ logLevels, isSolid name.toList = true := by decide +kernel
      exact plainValue_of_solid (isSolid_iff.mp (solid _ member))
  | noLogFile => exact ⟨trimmed_nil, List.not_mem_nil, List.not_mem_nil⟩
  | logFile plain => exact ⟨trim_eq_self_iff.mp plain.trimmed, plain.oneLine⟩

end Carries

theorem assign_places {fields : List Field}
    (converted : ∀ f ∈ fields, convert f (textFor (s'.get f)) = .ok (s'.get f)) :
    assign s (fields.map fun f => (f.placeName, textFor (s'.get f))) =
      .ok (fields.foldl (fun s f => s.set f (s'.get f)) s) := by
  induction fields generalizing s with
  | nil => rfl
  | cons f rest ih =>
      obtain ⟨first, others⟩ := List.forall_mem_cons.mp converted
      have named : get? f.placeName fileNames = some f :=
        Field.get?_fileNames.mpr (by rw [Field.isNamed, beq_self_eq_true, Bool.or_true])
      rw [List.map_cons, assign, named]
      dsimp only
      rw [first]
      exact ih others

/-- Setting every field leaves nothing of what was there. -/
theorem foldl_set (s s' : Settings) : Field.all.foldl (fun s f => s.set f (s'.get f)) s = s' := by
  simp only [Field.all, List.foldl_cons, List.foldl_nil, set, get]

end Fields

/-! ## Loading -/

section Loading

variable {s : Settings}

theorem flatMap_placed_sections (s : Settings) :
    s.sections.flatMap placed = Field.all.map fun f => (f.placeName, textFor (s.get f)) := rfl

theorem plainName_option (f : Field) : PlainName f.option := by
  cases f <;> exact ⟨by decide +kernel, by decide +kernel, by decide +kernel⟩

theorem mem_sections {held : String × Options} (member : held ∈ s.sections) :
    held.1 ∈ holders ∧ (keys held.2).Nodup ∧
      ∀ entry ∈ held.2, ∃ f : Field, entry = (f.option, textFor (s.get f)) := by
  obtain ⟨holder, isHolder, rfl⟩ := List.mem_map.mp member
  refine ⟨isHolder, ?_, fun entry inside => ?_⟩
  · have once : ∀ holder ∈ holders, ((Field.all.filter (·.holder == holder)).map Field.option).Nodup := by
      decide
    rw [keys, List.map_map]
    exact once holder isHolder
  · obtain ⟨f, -, same⟩ := List.mem_map.mp inside
    exact ⟨f, same.symm⟩

theorem plainSection_escape (plain : ∀ f : Field, PlainValue (textFor (s.get f)))
    {held : String × Options} (member : held ∈ mapValues (mapValues escape) s.sections) :
    PlainSection held := by
  obtain ⟨⟨name, own⟩, inside, rfl⟩ := List.mem_map.mp member
  obtain ⟨isHolder, once, entries⟩ := mem_sections inside
  have named : ∀ name ∈ holders,
      name ≠ "" ∧ name ≠ defaultSection ∧ '\r' ∉ name.toList ∧ '\n' ∉ name.toList := by
    decide
  obtain ⟨nonempty, other, oneLine⟩ := named name isHolder
  refine ⟨nonempty, other, oneLine, ?_, fun entry inside => ?_⟩
  · rw [keys_mapValues]
    exact once
  · obtain ⟨raw, inOwn, rfl⟩ := List.mem_map.mp inside
    obtain ⟨f, rfl⟩ := entries raw inOwn
    exact ⟨plainName_option f, plainValue_escape (plain f)⟩

theorem documentAt_fileText {t : Files.Tree} {path : String}
    (plain : ∀ f : Field, PlainValue (textFor (s.get f)))
    (read : t.read path = .ok (fileText s).toUTF8) :
    documentAt t path = .ok ⟨[], mapValues (mapValues escape) s.sections⟩ := by
  have titled : OneLine title := ⟨by decide, by decide⟩
  have once : (keys (mapValues (mapValues escape) s.sections)).Nodup := by
    have once : holders.Nodup := by decide
    rw [keys_mapValues, keys, sections, List.map_map]
    exact once
  rw [documentAt, read]
  dsimp only
  rw [toList_toUTF8, fileText, ofSource_ofOctets titled once fun _ => plainSection_escape plain]

/-- The settings that a file with their text gives. -/
theorem readFile_fileText {t : Files.Tree} {path : String} (accepted : s.check = .ok s)
    (portable : s.Portable) (read : t.read path = .ok (fileText s).toUTF8) : readFile t path = .ok s := by
  have carries := carries accepted portable
  have document := documentAt_fileText (fun f => (carries f).plainValue) read
  have entries : readDocument ⟨[], mapValues (mapValues escape) s.sections⟩ =
      .ok (Field.all.map fun f => (f.placeName, textFor (s.get f))) := by
    have once : (Field.all.map Field.placeName).Nodup := by decide
    refine readDocument_escape (fun held member => (mem_sections member).2.1) ?_
    rw [flatMap_placed_sections, keys, List.map_map]
    exact once
  have assigned : assign {} (Field.all.map fun f => (f.placeName, textFor (s.get f))) = .ok s := by
    rw [assign_places fun f _ => (carries f).convert, foldl_set]
  have present : t.exists_ path = true := Files.Tree.exists_of_read read
  rw [readFile, present, document]
  simp only [Bool.not_true, Bool.false_eq_true, if_false, ok_bind, entries, assigned, accepted]

theorem exists_load_of_read {t : Files.Tree} {path : String} (accepted : s.check = .ok s)
    (portable : s.Portable) (read : t.read path = .ok (fileText s).toUTF8) :
    ∃ notes, load t path = .ok (s, notes) := by
  refine exists_load_eq_ok (readFile_fileText accepted portable read) ?_
  exact portable.logFile.imp id fun ⟨file, same, _⟩ => ⟨file, same⟩

/-- Settings that are accepted and portable are carried by a file: they are what loading gives after their
    text was written. -/
theorem load_fileText {t t' : Files.Tree} {path : String} (accepted : s.check = .ok s)
    (portable : s.Portable) (written : t.write path (fileText s).toUTF8 = .ok t') :
    ∃ notes, load t' path = .ok (s, notes) :=
  exists_load_of_read accepted portable (Files.Tree.read_of_write written)

end Loading

/-! ## The default settings -/

theorem check_default : ({} : Settings).check = .ok {} := by
  have sound : ({} : Settings).flaw? = none := by decide +kernel
  rw [check, sound]

theorem portable_default : ({} : Settings).Portable where
  numbers f isNumber := by
    cases f with
    | signatureHash | logLevel | logFile => cases isNumber
    | _ => exact ⟨_, rfl, by decide +kernel⟩
  logFile := .inl rfl

/-! ### A path of signs -/

/-- Settings with a log file whose path has the signs of a settings file in it. -/
def signsSettings : Settings where
  keySize := .int 4096
  publicExponent := .int 3
  signatureHash := .text "SHA512"
  validNotBefore := .int 0
  validNotAfter := .int 365
  expiredNotBefore := .int 1000000
  expiredNotAfter := .int 999999
  logLevel := .text "CRITICAL"
  logFile := .text "[app] %(log_level)s = 100%; # a: b"

example : fileText signsSettings =
    "# Certificate Fixture Generator Configuration File\n\n"
    ++ "[keys]\nsize = 4096\npublic_exponent = 3\n\n"
    ++ "[signature]\nhash = SHA512\n\n"
    ++ "[validity]\nvalid_not_before_days = 0\nvalid_not_after_days = 365\n"
    ++ "expired_not_before_days = 1000000\nexpired_not_after_days = 999999\n\n"
    ++ "[app]\nlog_level = CRITICAL\nlog_file_path = [app] %%(log_level)s = 100%%; # a: b\n" := by
  decide +kernel

theorem portable_signsSettings : signsSettings.Portable where
  numbers f isNumber := by
    cases f with
    | signatureHash | logLevel | logFile => cases isNumber
    | _ => exact ⟨_, rfl, by decide +kernel⟩
  logFile := .inr ⟨_, rfl, by decide, ⟨by decide, by decide⟩, by decide +kernel⟩

/-- The settings are what loading gives after they were written to a new file. -/
theorem load_fileText_signsSettings :
    ∃ t' notes, Files.Tree.empty.write "c.ini" (fileText signsSettings).toUTF8 = .ok t' ∧
      load t' "c.ini" = .ok (signsSettings, notes) := by
  have sound : signsSettings.flaw? = none := by decide +kernel
  have accepted : signsSettings.check = .ok signsSettings := by rw [check, sound]
  have written (content : ByteArray) : Files.Tree.empty.write "c.ini" content =
      .ok ⟨[(Files.Place.here.child "c.ini", .file content)]⟩ := rfl
  obtain ⟨notes, loaded⟩ := load_fileText accepted portable_signsSettings (written _)
  exact ⟨_, notes, written _, loaded⟩

end CertMint.Settings
