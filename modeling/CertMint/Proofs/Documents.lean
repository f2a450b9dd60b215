import CertMint.Ini.Parser
import CertMint.Proofs.Keyed

/-! # Documents name nothing twice

While a settings file is read, every section has a name of its own, and so has every option in its
section. No line changes that, so it is true of the document in the end.
-/

namespace CertMint.Ini

open Keyed

/-- A document in which every section and, in each section, every option stands once. -/
structure Document.NamesOnce (doc : Document) : Prop where
  defaults : (keys doc.defaults).Nodup
  sections : (keys doc.sections).Nodup
  options : ∀ name own, (name, own) ∈ doc.sections → (keys own).Nodup

theorem Document.namesOnce_empty : Document.empty.NamesOnce :=
  ⟨.nil, .nil, fun _ _ member => (by cases member)⟩

namespace Scan

variable {s s' : Scan} {number : Nat} {line : String}

/-- A scan in which every section and, in each section, every option stands once. -/
structure NamesOnce (s : Scan) : Prop where
  defaults : (keys s.defaults).Nodup
  sections : (keys s.sections).Nodup
  options : ∀ name draft, (name, draft) ∈ s.sections → (keys draft).Nodup

theorem namesOnce_start : NamesOnce {} := ⟨.nil, .nil, fun _ _ member => (by cases member)⟩

namespace NamesOnce

theorem changeCurrent (once : s.NamesOnce) {f : Draft → Draft}
    (keeps : ∀ draft, (keys draft).Nodup → (keys (f draft)).Nodup) : (s.changeCurrent f).NamesOnce := by
  unfold Scan.changeCurrent
  split
  · exact once
  · split
    · exact { once with defaults := keeps _ once.defaults }
    · refine { once with sections := ?_, options := fun name draft member => ?_ }
      · rw [keys_modify]
        exact once.sections
      · obtain ⟨before, member, same⟩ := exists_of_mem_modify member
        have onceBefore := once.options name before member
        rcases same with rfl | rfl
        · exact onceBefore
        · exact keeps _ onceBefore

theorem addLine (once : s.NamesOnce) (line : String) : (s.addLine line).NamesOnce :=
  once.changeCurrent fun draft onceDraft => by
    rw [keys_modify]
    exact onceDraft

theorem addWrong (once : s.NamesOnce) (number : Nat) (line : String) : (s.addWrong number line).NamesOnce :=
  ⟨once.defaults, once.sections, once.options⟩

theorem beginSection (once : s.NamesOnce) {name : String} (h : s.beginSection number name = .ok s') :
    s'.NamesOnce := by
  unfold Scan.beginSection at h
  split at h
  · cases h
  · next fresh =>
      split at h
      · obtain rfl := Except.ok.inj h
        exact ⟨once.defaults, once.sections, once.options⟩
      · obtain rfl := Except.ok.inj h
        refine ⟨once.defaults, ?_, fun name' draft member => ?_⟩
        · have unused := has_eq_false_iff.mp (Bool.eq_false_iff.mpr fresh)
          rw [keys_append, List.nodup_append]
          refine ⟨once.sections, List.nodup_cons.mpr ⟨List.not_mem_nil, List.nodup_nil⟩, ?_⟩
          rintro other used _ member rfl
          obtain rfl := List.mem_singleton.mp member
          exact unused used
        · rcases List.mem_append.mp member with member | member
          · exact once.options name' draft member
          · cases List.mem_singleton.mp member
            exact .nil

theorem beginOption (once : s.NamesOnce) {inSection name value : String}
    (h : s.beginOption number line inSection name value = .ok s') : s'.NamesOnce := by
  unfold Scan.beginOption at h
  have noted : NamesOnce (if name.isEmpty then s.addWrong number line else s) := by
    split
    · exact once.addWrong number line
    · exact once
  generalize (if name.isEmpty then s.addWrong number line else s) = noting at h noted
  dsimp only at h
  split at h
  · cases h
  · obtain rfl := Except.ok.inj h
    have changed := noted.changeCurrent (f := put name [value]) fun _ => nodup_keys_put
    exact ⟨changed.defaults, changed.sections, changed.options⟩

theorem readFresh (once : s.NamesOnce) {trimmed : String} (h : s.readFresh number line trimmed = .ok s') :
    s'.NamesOnce := by
  unfold Scan.readFresh at h
  split at h
  · exact once.beginSection h
  · cases h
  · split at h
    · exact once.beginOption h
    · obtain rfl := Except.ok.inj h
      exact once.addWrong number line

theorem readLine (once : s.NamesOnce) (h : s.readLine number line = .ok s') : s'.NamesOnce := by
  unfold Scan.readLine at h
  dsimp only at h
  split at h
  · obtain rfl := Except.ok.inj h
    exact once
  · split at h
    · obtain rfl := Except.ok.inj h
      split
      · exact once.addLine ""
      · exact once
    · split at h
      · obtain rfl := Except.ok.inj h
        exact once.addLine _
      · -- how deep a line is indented names nothing
        have same : NamesOnce { s with indent := (line.toList.takeWhile Text.isBlank).length } :=
          ⟨once.defaults, once.sections, once.options⟩
        exact same.readFresh h

theorem readLines {lines : List String} (once : s.NamesOnce)
    (h : s.readLines number lines = .ok s') : s'.NamesOnce := by
  induction lines generalizing s number with
  | nil =>
      obtain rfl := Except.ok.inj h
      exact once
  | cons line rest ih =>
      rw [Scan.readLines] at h
      split at h
      · cases h
      · next read => exact ih (once.readLine read) h

end NamesOnce

end Scan

theorem keys_finish (draft : Draft) : keys (finish draft) = keys draft := by
  simp only [keys, finish, List.map_map, Function.comp_def]

/-- Every document that is read names nothing twice. -/
theorem Document.namesOnce_of_ofSource {source : Source} {doc : Document}
    (h : Document.ofSource source = .ok doc) : doc.NamesOnce := by
  unfold Document.ofSource at h
  split at h
  · cases h
  · next s read =>
      have once := Scan.namesOnce_start.readLines read
      split at h
      · cases h
      · split at h
        · obtain rfl := Except.ok.inj h
          refine ⟨?_, ?_, fun name own member => ?_⟩
          · rw [keys_finish]
            exact once.defaults
          · -- finishing the options of a section leaves its name as it is
            simpa only [keys, List.map_map, Function.comp_def] using once.sections
          · obtain ⟨⟨_, draft⟩, before, same⟩ := List.mem_map.mp member
            obtain ⟨rfl, rfl⟩ := Prod.mk.inj same
            rw [keys_finish]
            exact once.options _ draft before
        · cases h

end CertMint.Ini
