import CertMint.CommandLine.Request
import CertMint.Proofs.Work
import Mathlib.Control.Monad.Basic

/-! # Reading command lines

What reading leaves behind when it ends with a request: no strays, no switch that waits, and a level that
settings may have. So reading can go on from there, and words at the end of a command line change the
request as they would change an empty one.
-/

namespace CertMint

/-- A level that is none or one of the five. -/
def Settings.Known (level : Option String) : Prop := ∀ l, level = some l → l ∈ logLevels

namespace CommandLine

/-- What has been read when reading ends with a request. -/
def Request.gathered (r : Request) : Gathered where
  scenario := some r.scenario
  config := r.config
  describe := r.describe
  level := r.level

theorem mapError_eq_ok {ε ε' α : Type} {x : Except ε α} {f : ε → ε'} {a : α} :
    x.mapError f = .ok a ↔ x = .ok a := by
  cases x <;> simp [Except.mapError]

/-- A switch was read: words that belong to no switch are the same, and the level is a known one still. -/
structure Gathered.Keeps (p q : Gathered) : Prop where
  strays_eq : q.strays = p.strays
  known : Settings.Known p.level → Settings.Known q.level

namespace Gathered

variable {p q : Gathered} {switch : Switch}

theorem keeps_take {value : String} (taken : p.take switch value = .ok q) : p.Keeps q := by
  cases switch with
  | help | describe | config =>
      obtain rfl := Except.ok.inj taken
      exact ⟨rfl, id⟩
  | scenario =>
      simp only [take] at taken
      split at taken
      · obtain rfl := Except.ok.inj taken
        exact ⟨rfl, id⟩
      · cases taken
  | logLevel =>
      simp only [take] at taken
      split at taken
      · next listed =>
          obtain rfl := Except.ok.inj taken
          refine ⟨rfl, ?_⟩
          intro _ l eq
          obtain rfl := Option.some.inj eq
          simpa using listed
      · cases taken

theorem keeps_takeNothing (p : Gathered) (switch : Switch) : p.Keeps (p.takeNothing switch) := by
  cases switch with
  | logLevel =>
      refine ⟨rfl, ?_⟩
      intro _ l eq
      cases eq
  | _ => exact ⟨rfl, id⟩

theorem keeps_readSwitch {long : Bool} {attached : Option String}
    (read : readSwitch p switch long attached = .ok q) : p.Keeps q := by
  cases attached with
  | none =>
      simp only [readSwitch] at read
      split at read
      · obtain rfl := Except.ok.inj read
        exact ⟨rfl, id⟩
      · split at read
        · cases read
        · obtain rfl := Except.ok.inj read
          exact ⟨rfl, id⟩
  | some value =>
      simp only [readSwitch] at read
      split at read
      · rw [mapError_eq_ok, takeAttached] at read
        split at read
        · obtain rfl := Except.ok.inj read
          exact keeps_takeNothing p switch
        · exact keeps_take read
      · split at read
        · cases read
        · split at read
          · cases read
          · cases read
          · obtain rfl := Except.ok.inj read
            exact ⟨rfl, id⟩

/-- A word is one of a switch, or belongs to none. The mark belongs to none. -/
theorem keeps_or_stray {word : Word} (read : readWord p word = .ok q) :
    (p.Keeps q ∧ word ≠ .mark) ∨ ∃ text, q = p.stray text := by
  unfold readWord at read
  split at read
  · cases read
  · obtain ⟨strays_eq, known⟩ := keeps_take (mapError_eq_ok.mp read)
    exact .inl ⟨⟨strays_eq, known⟩, by simp⟩
  · cases read
  · exact .inr ⟨_, (Except.ok.inj read).symm⟩
  · exact .inr ⟨_, (Except.ok.inj read).symm⟩
  · exact .inr ⟨_, (Except.ok.inj read).symm⟩
  · exact .inl ⟨keeps_readSwitch read, by simp⟩

/-- Words that leave no strays leave the level known, and the mark is not among them. -/
theorem known_of_strays_eq_nil {words : List Word} (read : words.foldlM readWord p = .ok q)
    (strays : q.strays = []) :
    p.strays = [] ∧ (Settings.Known p.level → Settings.Known q.level) ∧ .mark ∉ words := by
  induction words generalizing p with
  | nil =>
      obtain rfl := Except.ok.inj read
      exact ⟨strays, id, by simp⟩
  | cons word words ih =>
      rw [List.foldlM_cons, bind_eq_ok] at read
      obtain ⟨next, one, rest⟩ := read
      obtain ⟨empty, known, unmarked⟩ := ih rest
      rcases keeps_or_stray one with ⟨keeps, other⟩ | ⟨text, rfl⟩
      · refine ⟨keeps.strays_eq.symm.trans empty, known ∘ keeps.known, ?_⟩
        simp [other.symm, unmarked]
      · simp [stray] at empty

theorem finish_eq_ok {r : Request} : p.finish = .ok r ↔ p = r.gathered := by
  obtain ⟨scenario, config, describe, level, strays, waiting⟩ := p
  obtain ⟨scenario', config', describe', level'⟩ := r
  cases waiting with
  | some held => simp [finish, Request.gathered]
  | none =>
      cases scenario with
      | none => simp [finish, Request.gathered]
      | some scenario =>
          cases strays with
          | cons stray strays => simp [finish, Request.gathered]
          | nil => simp [finish, Request.gathered]

end Gathered

theorem ofTexts_eq_ok {texts : List String} {r : Request} : Request.ofTexts texts = .ok r ↔
    ∃ words, Word.ofTexts texts = .ok words ∧ words.foldlM readWord {} = .ok r.gathered := by
  simp only [Request.ofTexts, bind_eq_ok, mapError_eq_ok, Gathered.finish_eq_ok, exists_eq_right]

/-- A request has a level that settings may have, or none. -/
theorem known_of_ofTexts {texts : List String} {r : Request} (read : Request.ofTexts texts = .ok r) :
    Settings.Known r.level := by
  obtain ⟨words, -, folded⟩ := ofTexts_eq_ok.mp read
  obtain ⟨-, known, -⟩ := Gathered.known_of_strays_eq_nil folded rfl
  apply known
  intro l eq
  cases eq

theorem Word.ofTexts_append {texts more : List String} {words moreWords : List Word}
    (cut : ofTexts texts = .ok words) (unmarked : .mark ∉ words) (cutMore : ofTexts more = .ok moreWords) :
    ofTexts (texts ++ more) = .ok (words ++ moreWords) := by
  induction texts generalizing words with
  | nil =>
      obtain rfl := Except.ok.inj cut
      exact cutMore
  | cons text rest ih =>
      rw [List.cons_append, ofTexts]
      rw [ofTexts] at cut
      split at cut
      · obtain rfl := Except.ok.inj cut
        simp at unmarked
      · next plain =>
          rw [if_neg plain]
          simp only [bind_eq_ok] at cut
          obtain ⟨word, one, words', others, eq⟩ := cut
          obtain rfl := Except.ok.inj eq
          rw [one, ih others (fun member => unmarked (List.mem_cons_of_mem _ member))]
          rfl

/-- Words at the end of a command line are read after all the others. -/
theorem ofTexts_append {texts more : List String} {words : List Word} {r r' : Request}
    (read : Request.ofTexts texts = .ok r) (cut : Word.ofTexts more = .ok words)
    (folded : words.foldlM readWord r.gathered = .ok r'.gathered) :
    Request.ofTexts (texts ++ more) = .ok r' := by
  obtain ⟨before, cutBefore, foldedBefore⟩ := ofTexts_eq_ok.mp read
  obtain ⟨-, -, unmarked⟩ := Gathered.known_of_strays_eq_nil foldedBefore rfl
  apply ofTexts_eq_ok.mpr
  refine ⟨before ++ words, Word.ofTexts_append cutBefore unmarked cut, ?_⟩
  rw [List.foldlM_append, foldedBefore, ok_bind, folded]

/-- A level at the end of a command line is put in place of another one. -/
theorem ofTexts_append_level {texts : List String} {r : Request} {level : String}
    (read : Request.ofTexts texts = .ok r) (known : level ∈ Settings.logLevels) :
    Request.ofTexts (texts ++ ["--log-level", level]) = .ok { r with level := some level } := by
  have cut : ∀ l ∈ Settings.logLevels,
      Word.ofTexts ["--log-level", l] = .ok [.switch .logLevel true none, .plain l] := by decide +kernel
  apply ofTexts_append read (cut level known)
  simp [readWord, readSwitch, Switch.takesValue, Gathered.take, known, Request.gathered, Except.mapError]

theorem ofTexts_append_describe {texts : List String} {r : Request}
    (read : Request.ofTexts texts = .ok r) :
    Request.ofTexts (texts ++ ["--describe"]) = .ok { r with describe := true } := by
  have cut : Word.ofTexts ["--describe"] = .ok [.switch .describe true none] := by decide +kernel
  exact ofTexts_append read cut rfl

end CommandLine

end CertMint
