import CertMint.Files.Folders
import CertMint.Proofs.Keyed
import CertMint.Proofs.Work

/-! # Files that were written

Writing changes what stands at one place, where there was no directory. Walks that go through
directories go the same way afterwards, so what was written is what is read.
-/

namespace CertMint.Files.Tree

open Keyed

variable {t t' : Tree} {p q : Place} {e : Entry} {path : String} {content : ByteArray}

theorem find?_put (named : p.names ≠ []) (q : Place) :
    (t.put p e).find? q = if q = p then some e else t.find? q := by
  rw [find?, find?, put, get?_put]
  by_cases same : q = p
  · subst same
    rw [if_neg (mt List.isEmpty_iff.mp named), if_pos (beq_self_eq_true q), if_pos rfl]
  · rw [if_neg same, if_neg fun again => same (eq_of_beq again).symm]

/-! ## Walks -/

/-- A name leads from a directory to a place. -/
inductive StepsTo (t : Tree) (p : Place) : String → Place → Prop
  | here : t.find? p = some .folder → StepsTo t p "." p
  | up : t.find? p = some .folder → StepsTo t p ".." p.parent
  | down {name : String} : t.find? p = some .folder → name ≠ "." → name ≠ ".." →
      name.utf8ByteSize ≤ maxName → (t.find? (p.child name)).isSome = true →
      StepsTo t p name (p.child name)

theorem StepsTo.folder {name : String} (h : t.StepsTo p name q) : t.find? p = some .folder := by
  cases h <;> assumption

theorem walk_cons_eq_ok {name : String} {rest : List String} :
    t.walk p (name :: rest) = .ok q ↔ ∃ p₁, t.StepsTo p name p₁ ∧ t.walk p₁ rest = .ok q := by
  constructor
  · intro walked
    rw [walk] at walked
    split at walked
    · cases walked
    · cases walked
    · cases walked
    · next folder =>
        split at walked
        · next dot => exact ⟨p, dot ▸ .here folder, walked⟩
        · next notDot =>
            split at walked
            · next up => exact ⟨p.parent, up ▸ .up folder, walked⟩
            · next notUp =>
                split at walked
                · cases walked
                · next short =>
                    split at walked
                    · cases walked
                    · next present =>
                        refine ⟨p.child name, .down folder notDot notUp (Nat.not_lt.mp short) ?_, walked⟩
                        exact Option.isSome_iff_ne_none.mpr (mt Option.isNone_iff_eq_none.mpr present)
  · rintro ⟨p₁, step, walked⟩
    rw [walk, step.folder]
    cases step with
    | here => exact walked
    | up => exact walked
    | down _ notDot notUp short present =>
        have known : ¬ (t.find? (p.child name)).isNone = true :=
          mt Option.isNone_iff_eq_none.mp (Option.isSome_iff_ne_none.mp present)
        dsimp only
        rwa [if_neg notDot, if_neg notUp, if_neg (Nat.not_lt.mpr short), if_neg known]

theorem walk_append_eq_ok {names more : List String} :
    t.walk p (names ++ more) = .ok q ↔ ∃ p₁, t.walk p names = .ok p₁ ∧ t.walk p₁ more = .ok q := by
  induction names generalizing p with
  | nil => exact ⟨fun walked => ⟨p, rfl, walked⟩, fun ⟨_, here, walked⟩ => Except.ok.inj here ▸ walked⟩
  | cons name rest ih =>
      simp only [List.cons_append, walk_cons_eq_ok, ih]
      constructor
      · rintro ⟨p₁, step, p₂, first, second⟩
        exact ⟨p₂, ⟨p₁, step, first⟩, second⟩
      · rintro ⟨p₂, ⟨p₁, step, first⟩, second⟩
        exact ⟨p₁, step, p₂, first, second⟩

/-! ## Trees that have more -/

/-- A tree that has what another one has: its directories, and something wherever the other has something. -/
structure Extends (t t' : Tree) : Prop where
  folder : ∀ q, t.find? q = some .folder → t'.find? q = some .folder
  isSome : ∀ q, (t.find? q).isSome = true → (t'.find? q).isSome = true

namespace Extends

theorem stepsTo {name : String} (h : Extends t t') (step : t.StepsTo p name q) : t'.StepsTo p name q := by
  cases step with
  | here folder => exact .here (h.folder p folder)
  | up folder => exact .up (h.folder p folder)
  | down folder notDot notUp short present =>
      exact .down (h.folder p folder) notDot notUp short (h.isSome _ present)

/-- Every walk goes the same way in the tree that has more. -/
theorem walk {names : List String} (h : Extends t t') (walked : t.walk p names = .ok q) :
    t'.walk p names = .ok q := by
  induction names generalizing p with
  | nil => exact walked
  | cons name rest ih =>
      obtain ⟨p₁, step, walked⟩ := walk_cons_eq_ok.mp walked
      exact walk_cons_eq_ok.mpr ⟨p₁, h.stepsTo step, ih walked⟩

/-- The walk to the directory of a path leads on to the last name once that is there. -/
theorem walk_last {name : String} (h : Extends t t')
    (walked : t.walk (start path) (names path).dropLast = .ok p) (last : (names path).getLast? = some name)
    (step : t'.StepsTo p name q) : t'.walk (start path) (names path) = .ok q := by
  obtain ⟨holders, split⟩ := List.getLast?_eq_some_iff.mp last
  have before := h.walk walked
  rw [split, List.dropLast_concat] at before
  rw [split]
  exact walk_append_eq_ok.mpr ⟨p, before, walk_cons_eq_ok.mpr ⟨q, step, rfl⟩⟩

end Extends

/-! ## Writing -/

/-- A tree after a file was put at a place: elsewhere it is as it was before. -/
structure Puts (t t' : Tree) (p : Place) (content : ByteArray) : Prop where
  free : t.find? p ≠ some .folder
  at_ : t'.find? p = some (.file content)
  elsewhere : ∀ q, q ≠ p → t'.find? q = t.find? q

theorem Puts.toExtends (h : Puts t t' p content) : Extends t t' where
  folder q there := by
    rw [h.elsewhere q fun same => h.free (same ▸ there), there]
  isSome q present := by
    by_cases same : q = p
    · simp [same, h.at_]
    · rwa [h.elsewhere q same]

/-- A path means a free place or a file for writing: a name in a directory. -/
structure Targets (t : Tree) (path : String) (holder : Place) (name : String) : Prop where
  checked : checkPath path = .ok ()
  walked : t.walk (start path) (names path).dropLast = .ok holder
  folder : t.find? holder = some .folder
  last : (names path).getLast? = some name
  notDot : name ≠ "."
  notUp : name ≠ ".."
  noFolder : asksFolder path = false
  short : name.utf8ByteSize ≤ maxName

theorem exists_targets (h : t.target path = .ok p) :
    ∃ holder name, t.Targets path holder name ∧ p = holder.child name := by
  rw [target] at h
  obtain ⟨⟨⟩, checked, h⟩ := bind_eq_ok.mp h
  obtain ⟨holder, walked, h⟩ := bind_eq_ok.mp h
  split at h
  · cases h
  · cases h
  · cases h
  · next folder =>
      split at h
      · cases h
      · cases h
      · cases h
      · next name notDot notUp last =>
          split at h
          · cases h
          · next noFolder =>
              split at h
              · cases h
              · next short =>
                  refine ⟨holder, name, ?_, (Except.ok.inj h).symm⟩
                  exact {
                    checked, walked, folder, last
                    notDot := fun same => notDot same
                    notUp := fun same => notUp same
                    noFolder := Bool.eq_false_iff.mpr noFolder
                    short := Nat.not_lt.mp short }

theorem Place.names_child_ne_nil (p : Place) (name : String) : (p.child name).names ≠ [] := by
  rw [Place.child]
  exact List.append_ne_nil_of_right_ne_nil _ (List.cons_ne_nil _ _)

/-- What is opened for writing is a file, new and empty or there before. -/
theorem exists_puts_of_openFile (h : t.openFile path = .ok (p, t')) :
    ∃ holder name content, t.Targets path holder name ∧ p = holder.child name ∧ Puts t t' p content := by
  rw [openFile] at h
  obtain ⟨place, found, h⟩ := bind_eq_ok.mp h
  obtain ⟨holder, name, targets, rfl⟩ := exists_targets found
  have named := Place.names_child_ne_nil holder name
  split at h
  · cases h
  · cases h
  · next content there =>
      cases h
      exact ⟨holder, name, content, targets, rfl, fun folder => (by cases there.symm.trans folder), there,
        fun q _ => rfl⟩
  · next free =>
      cases h
      refine ⟨holder, name, .empty, targets, rfl, fun folder => (by cases free.symm.trans folder), ?_,
        fun q other => ?_⟩
      · rw [find?_put named, if_pos rfl]
      · rw [find?_put named, if_neg other]

theorem exists_puts (h : t.write path content = .ok t') :
    ∃ holder name, t.Targets path holder name ∧ Puts t t' (holder.child name) content := by
  rw [write] at h
  obtain ⟨⟨p, t₁⟩, opened, h⟩ := bind_eq_ok.mp h
  obtain rfl := Except.ok.inj h
  obtain ⟨holder, name, _, targets, rfl, opens⟩ := exists_puts_of_openFile opened
  have named := Place.names_child_ne_nil holder name
  refine ⟨holder, name, targets, opens.free, ?_, fun q other => ?_⟩
  · rw [find?_put named, if_pos rfl]
  · rw [find?_put named, if_neg other, opens.elsewhere q other]

theorem exists_of_read (h : t.read path = .ok content) : t.exists_ path = true := by
  rw [read] at h
  obtain ⟨p, located, h⟩ := bind_eq_ok.mp h
  rw [exists_, located]
  dsimp only at h ⊢
  split at h
  · next file => rw [file]; rfl
  · cases h
  · cases h
  · cases h

/-- The path of what was written leads to it. -/
theorem locate_of_puts {holder : Place} {name : String} (targets : t.Targets path holder name)
    (puts : Puts t t' (holder.child name) content) : t'.locate path = .ok (holder.child name) := by
  have folder := puts.toExtends.folder holder targets.folder
  have step : t'.StepsTo holder name (holder.child name) :=
    .down folder targets.notDot targets.notUp targets.short (by simp [puts.at_])
  have walked := puts.toExtends.walk_last targets.walked targets.last step
  simp [locate, targets.checked, targets.noFolder, walked]

theorem read_of_puts (located : t'.locate path = .ok p) (puts : Puts t t' p content) :
    t'.read path = .ok content := by
  rw [read, located, ok_bind, puts.at_]
  rfl

/-- What was written is what is read. -/
theorem read_of_write (h : t.write path content = .ok t') : t'.read path = .ok content := by
  obtain ⟨holder, name, targets, puts⟩ := exists_puts h
  exact read_of_puts (locate_of_puts targets puts) puts

end CertMint.Files.Tree

/-! ## Changes -/

namespace CertMint.Files.Change

variable {α β : Type} {t t' : Tree}

/-- A change that succeeded did so in each of its steps. -/
theorem exists_of_run_bind {x : Change α} {f : α → Change β} {b : β}
    (h : (x >>= f).run t = (.ok b, t')) :
    ∃ a t₁, x.run t = (.ok a, t₁) ∧ (f a).run t₁ = (.ok b, t') := by
  rw [run_bind] at h
  split at h
  · next a t₁ ran => exact ⟨a, t₁, ran, h⟩
  · cases h

theorem eq_ok_of_run_tryWith {path : String} {f : Tree → Except Refusal Tree}
    (h : (tryWith path f).run t = (.ok (), t')) : f t = .ok t' := by
  have got : (get : Change Tree).run t = (.ok t, t) := rfl
  rw [tryWith, run_bind, got] at h
  dsimp only at h
  split at h
  · next same =>
      obtain rfl := (Prod.mk.inj h).2
      exact same
  · cases h

end CertMint.Files.Change
