import CertMint.Proofs.Trees
import Mathlib.Data.List.DropRight

/-! # Directories that are made on the way

Making a directory together with the missing ones above it changes nothing that is there. All that it makes are
directories where nothing was, at places that the path leads through. This holds when it is refused as well, of
what was made until then.
-/

namespace CertMint.Files

/-! ## The names before a slash -/

section Paths

variable {path : String} {cs slashes : List Char}

theorem names_ofList_append (front back : List Char) :
    names (String.ofList (front ++ '/' :: back)) = names (String.ofList front) ++ names (String.ofList back) := by
  have split : (front ++ '/' :: back).splitOn '/' = front.splitOn '/' ++ back.splitOn '/' :=
    List.splitOnP_append_cons front back (beq_self_eq_true '/')
  simp only [names, String.toList_ofList, split, List.filter_append, List.map_append]

theorem names_of_slashes (all : ∀ c ∈ slashes, c = '/') : names (String.ofList slashes) = [] := by
  induction slashes with
  | nil => rfl
  | cons c rest ih =>
      obtain ⟨rfl, others⟩ := List.forall_mem_cons.mp all
      rw [← List.nil_append ('/' :: rest), names_ofList_append, ih others]
      rfl

/-- Slashes at the end make no name. -/
theorem names_append_slashes (cs : List Char) (all : ∀ c ∈ slashes, c = '/') :
    names (String.ofList (cs ++ slashes)) = names (String.ofList cs) := by
  cases slashes with
  | nil => rw [List.append_nil]
  | cons c rest =>
      obtain ⟨rfl, others⟩ := List.forall_mem_cons.mp all
      rw [names_ofList_append, names_of_slashes others, List.append_nil]

theorem exists_dropSlashes_append (cs : List Char) :
    ∃ slashes, dropSlashes cs ++ slashes = cs ∧ ∀ c ∈ slashes, c = '/' := by
  rw [dropSlashes]
  split
  · exact ⟨[], List.append_nil cs, fun _ member => by cases member⟩
  · refine ⟨cs.rtakeWhile (· = '/'), List.rdropWhile_append_rtakeWhile, ?_⟩
    intro c member
    simpa using List.mem_rtakeWhile_imp member

/-- What stands before the last name of a path is nothing, or ends with a slash. -/
theorem exists_splitLast_eq (path : String) :
    (splitLast path).1 = [] ∨ ∃ front, (splitLast path).1 = front ++ ['/'] := by
  have eq : (splitLast path).1 = path.toList.rdropWhile (· ≠ '/') := rfl
  rcases List.eq_nil_or_concat' (splitLast path).1 with none_ | ⟨front, c, ends⟩
  · exact .inl none_
  · have some_ : path.toList.rdropWhile (· ≠ '/') ≠ [] := by
      rw [← eq, ends]
      simp
    have last := List.rdropWhile_last_not (· ≠ '/') path.toList some_
    have slash : c = '/' := by
      simp only [← eq, ends, List.getLast_append_singleton] at last
      simpa using last
    exact .inr ⟨front, slash ▸ ends⟩

theorem splitLast_append (path : String) :
    (splitLast path).1 ++ path.toList.rtakeWhile (· ≠ '/') = path.toList :=
  List.rdropWhile_append_rtakeWhile

theorem isPrefix_toList_directory (path : String) : (directory path).toList <+: path.toList := by
  obtain ⟨slashes, whole, -⟩ := exists_dropSlashes_append (splitLast path).1
  rw [directory, String.toList_ofList, ← splitLast_append path]
  exact (List.prefix_iff_exists_append_eq.mpr ⟨slashes, whole⟩).trans (List.prefix_append _ _)

/-- The names of the directory part of a path are first names of the path. -/
theorem isPrefix_names_directory (path : String) : names (directory path) <+: names path := by
  obtain ⟨slashes, whole, all⟩ := exists_dropSlashes_append (splitLast path).1
  rw [directory, ← names_append_slashes _ all, whole]
  rcases exists_splitLast_eq path with none_ | ⟨front, ends⟩
  · rw [none_]
    exact List.nil_prefix
  · have cut : path = String.ofList (front ++ '/' :: path.toList.rtakeWhile (· ≠ '/')) := by
      rw [List.append_cons, ← ends, splitLast_append, String.ofList_toList]
    have slash : ∀ c ∈ ['/'], c = '/' := fun c => List.mem_singleton.mp
    rw [ends, names_append_slashes front slash]
    rw [cut, names_ofList_append]
    exact List.prefix_append _ _

theorem start_eq_of_front {above : String} (full : above ≠ "") (first : above.toList <+: path.toList) :
    Tree.start above = Tree.start path := by
  obtain ⟨more, whole⟩ := first
  obtain ⟨c, rest, eq⟩ := List.exists_cons_of_ne_nil (mt String.toList_eq_nil_iff.mp full)
  simp [Tree.start, isAbsolute, ← whole, eq]

end Paths

namespace Tree

variable {t t' t'' : Tree} {p q : Place} {path above : String}

/-! ## Growth -/

/-- A path leads through a place: a walk of its first names ends there. -/
def PassesThrough (t : Tree) (path : String) (q : Place) : Prop :=
  ∃ front, front <+: names path ∧ t.walk (start path) front = .ok q

/-- From one tree to another, nothing has changed except that there are directories where nothing was, at places
    that the path leads through. -/
def Grows (path : String) (t t' : Tree) : Prop :=
  ∀ q, t'.find? q = t.find? q ∨
    t.find? q = none ∧ t'.find? q = some .folder ∧ t'.PassesThrough path q

theorem Extends.passesThrough (h : Extends t t') (passes : t.PassesThrough path q) :
    t'.PassesThrough path q := by
  obtain ⟨front, first, walked⟩ := passes
  exact ⟨front, first, h.walk walked⟩

/-- A path leads through what its directory part leads through. -/
theorem PassesThrough.of_directory (full : directory path ≠ "") (passes : t.PassesThrough (directory path) q) :
    t.PassesThrough path q := by
  obtain ⟨front, first, walked⟩ := passes
  rw [start_eq_of_front full (isPrefix_toList_directory path)] at walked
  exact ⟨front, first.trans (isPrefix_names_directory path), walked⟩

namespace Grows

theorem refl (path : String) (t : Tree) : Grows path t t := fun _ => .inl rfl

theorem toExtends (h : Grows path t t') : Extends t t' where
  folder q there := by
    rcases h q with same | ⟨none_, -⟩
    · rw [same, there]
    · cases there.symm.trans none_
  isSome q present := by
    rcases h q with same | ⟨-, folder, -⟩
    · rwa [same]
    · simp [folder]

theorem trans (h : Grows path t t') (h' : Grows path t' t'') : Grows path t t'' := by
  intro q
  rcases h q with same | ⟨none_, folder, passes⟩
  · rw [← same]
    exact h' q
  · exact .inr ⟨none_, h'.toExtends.folder q folder, h'.toExtends.passesThrough passes⟩

theorem of_directory (full : directory path ≠ "") (h : Grows (directory path) t t') : Grows path t t' := by
  intro q
  apply (h q).imp_right
  rintro ⟨none_, folder, passes⟩
  exact ⟨none_, folder, passes.of_directory full⟩

end Grows

/-- A path means a free place for a new directory: a name in a directory. -/
structure Frees (t : Tree) (path : String) (holder : Place) (name : String) : Prop where
  walked : t.walk (start path) (names path).dropLast = .ok holder
  folder : t.find? holder = some .folder
  last : (names path).getLast? = some name
  notDot : name ≠ "."
  notUp : name ≠ ".."
  short : name.utf8ByteSize ≤ maxName
  free : t.find? (holder.child name) = none

theorem exists_frees (h : t.makeFolder path = .ok t') :
    ∃ holder name, t.Frees path holder name ∧ t' = t.put (holder.child name) .folder := by
  rw [makeFolder] at h
  obtain ⟨⟨⟩, -, h⟩ := bind_eq_ok.mp h
  obtain ⟨holder, walked, h⟩ := bind_eq_ok.mp h
  split at h
  · cases h
  · cases h
  · cases h
  · next folder =>
      split at h
      · cases h
      · cases h
      · cases h
      · next name notDot notUp last =>
          split at h
          · cases h
          · next short =>
              split at h
              · cases h
              · next taken =>
                  refine ⟨holder, name, ?_, (Except.ok.inj h).symm⟩
                  exact {
                    walked, folder, last
                    notDot := fun same => notDot same
                    notUp := fun same => notUp same
                    short := Nat.not_lt.mp short
                    free := by simpa using taken }

/-- A directory that is made stands where nothing was, at the end of its path. -/
theorem grows_of_makeFolder (h : t.makeFolder path = .ok t') : Grows path t t' := by
  obtain ⟨holder, name, frees, rfl⟩ := exists_frees h
  have found := find?_put (t := t) (e := .folder) (Place.names_child_ne_nil holder name)
  have there : (t.put (holder.child name) .folder).find? (holder.child name) = some .folder := by
    rw [found, if_pos rfl]
  have more : Extends t (t.put (holder.child name) .folder) := by
    constructor
    · intro q folder
      rw [found, folder]
      exact ite_self _
    · intro q present
      rw [found]
      split
      · rfl
      · exact present
  have step : (t.put (holder.child name) .folder).StepsTo holder name (holder.child name) :=
    .down (more.folder holder frees.folder) frees.notDot frees.notUp frees.short (by rw [there]; rfl)
  intro q
  by_cases same : q = holder.child name
  · subst same
    exact .inr ⟨frees.free, there, names path, List.prefix_rfl, more.walk_last frees.walked frees.last step⟩
  · exact .inl (by rw [found, if_neg same])

end Tree

/-! ## Changes that let a tree grow -/

namespace Change

open CertMint.Files.Tree

variable {α β : Type} {path : String}

/-- A change that lets every tree grow, whether or not it is refused in the end. -/
def Growing (path : String) (x : Change α) : Prop := ∀ t, Grows path t (x.run t).2

theorem growing_pure (path : String) (a : α) : Growing path (pure a) := fun t => .refl path t

theorem growing_throw (path : String) (f : Fault) : Growing path (throw f : Change α) := fun t => .refl path t

theorem growing_get (path : String) : Growing path (get : Change Tree) := fun t => .refl path t

theorem Growing.bind {x : Change α} {f : α → Change β} (first : Growing path x)
    (second : ∀ a, Growing path (f a)) : Growing path (x >>= f) := by
  intro t
  have before := first t
  rw [run_bind]
  rcases ran : x.run t with ⟨_ | a, t₁⟩
  · rwa [ran] at before
  · rw [ran] at before
    exact before.trans (second a t₁)

theorem Growing.tryCatch {x : Change α} {handler : Fault → Change α} (first : Growing path x)
    (second : ∀ f, Growing path (handler f)) : Growing path (tryCatch x handler) := by
  intro t
  have before := first t
  rw [run_tryCatch]
  rcases ran : x.run t with ⟨f | _, t₁⟩
  · rw [ran] at before
    exact before.trans (second f t₁)
  · rwa [ran] at before

theorem Growing.of_directory {x : Change α} (full : directory path ≠ "") (h : Growing (directory path) x) :
    Growing path x := fun t => (h t).of_directory full

theorem growing_makeFolder (path : String) : Growing path (makeFolder path) := by
  intro t
  have got : (get : Change Tree).run t = (.ok t, t) := rfl
  rw [makeFolder, tryWith, run_bind, got]
  dsimp only
  split
  · next t' made => exact grows_of_makeFolder made
  · exact .refl path t

theorem growing_unlessFolder (path path' : String) (f : Fault) : Growing path (unlessFolder path' f) := by
  apply (growing_get path).bind
  intro t
  split
  · exact growing_pure path ()
  · exact growing_throw path f

/-- What stands above a path in its text is a directory part of it, or of its directory part. -/
theorem growing_of_splitName {x : Change α} (full : (splitName path).1 ≠ "")
    (h : Growing (splitName path).1 x) : Growing path x := by
  by_cases slash : (lastName path).isEmpty = true
  · have above : (splitName path).1 = directory (directory path) := by rw [splitName, if_pos slash]
    rw [above] at full h
    have full' : directory path ≠ "" := by
      intro empty
      rw [empty] at full
      exact full rfl
    exact (h.of_directory full).of_directory full'
  · have above : (splitName path).1 = directory path := by rw [splitName, if_neg slash]
    rw [above] at full h
    exact h.of_directory full

theorem growing_makeFoldersWithin (fuel : Nat) (path : String) : Growing path (makeFoldersWithin fuel path) := by
  induction fuel generalizing path with
  | zero => exact growing_pure path ()
  | succ fuel ih =>
      have last : Growing path (tryCatch (makeFolder path) fun f => unlessFolder path f) :=
        (growing_makeFolder path).tryCatch fun f => growing_unlessFolder path path f
      rcases parts : splitName path with ⟨above, name⟩
      have ofAbove {α : Type} {x : Change α} (full : above ≠ "") (h : Growing above x) : Growing path x := by
        have same : (splitName path).1 = above := by rw [parts]
        subst same
        exact growing_of_splitName full h
      rw [makeFoldersWithin, parts]
      apply (growing_get path).bind
      intro t
      split
      · next missing =>
          have full : above ≠ "" := by
            intro empty
            simp [empty] at missing
          apply Growing.bind
          · apply Growing.tryCatch
            · exact ofAbove full (ih above)
            · intro f
              split
              · exact growing_pure path ()
              · exact growing_throw path f
          · intro _
            split
            · exact growing_pure path ()
            · exact last
      · exact last

end Change

end CertMint.Files
