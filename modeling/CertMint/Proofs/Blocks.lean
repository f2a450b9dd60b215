import CertMint.Ini.Source
import CertMint.Proofs.Utf8

/-! # Decoding in blocks

Octets can be decoded in blocks of any size, as long as what a block leaves open is decoded again
together with the next one. `Utf8Runs` is the run of the decoder over some octets as a relation: it can
be cut at every octet, and what it leaves open leads back to where it was. So a file is read as the lines of
its text, and a flaw is found in it exactly when its octets are those of no text.
-/

namespace CertMint.Text

/-! ## Runs of the decoder -/

/-- The octets of the sequence that is open. -/
def Utf8State.seen : Utf8State → List UInt8
  | .idle => []
  | .open_ seen _ _ _ _ => seen

/-- One octet takes the decoder from a state to another one and puts down some characters. -/
inductive Utf8Step : Utf8State → UInt8 → List Char → Utf8State → Prop
  | whole {b low high : UInt8} {value : Nat} : utf8Lead? b = some (0, value, low, high) →
      Utf8Step .idle b [Char.ofNat value] .idle
  | lead {b low high : UInt8} {missing value : Nat} :
      utf8Lead? b = some (missing + 1, value, low, high) →
      Utf8Step .idle b [] (.open_ [b] value (missing + 1) low high)
  | last {seen : List UInt8} {b low high : UInt8} {missing value : Nat} : low ≤ b → b ≤ high →
      missing ≤ 1 → Utf8Step (.open_ seen value missing low high) b
        [Char.ofNat (64 * value + (b.toNat - 0x80))] .idle
  | more {seen : List UInt8} {b low high : UInt8} {missing value : Nat} : low ≤ b → b ≤ high →
      ¬ missing ≤ 1 → Utf8Step (.open_ seen value missing low high) b []
        (.open_ (seen ++ [b]) (64 * value + (b.toNat - 0x80)) (missing - 1) 0x80 0xbf)

/-- Octets take the decoder from a state to another one and put down characters, newest first. -/
inductive Utf8Runs : Utf8State → List UInt8 → List Char → Utf8State → Prop
  | nil (st : Utf8State) : Utf8Runs st [] [] st
  | cons {st st₁ st' : Utf8State} {b : UInt8} {bs : List UInt8} {cs cs' : List Char} :
      Utf8Step st b cs st₁ → Utf8Runs st₁ bs cs' st' → Utf8Runs st (b :: bs) (cs' ++ cs) st'

variable {st st₁ st' : Utf8State} {b : UInt8} {bs rest : List UInt8} {cs cs' : List Char}

theorem Utf8Step.exists_utf8Run_eq (h : Utf8Step st b cs st') (position : Nat) (done : List Char) :
    ∃ position', ∀ rest, utf8Run position done st (b :: rest) =
      utf8Run position' (cs ++ done) st' rest := by
  cases h with
  | whole lead =>
      refine ⟨position + 1, fun rest => ?_⟩
      rw [utf8Run, lead]
      rfl
  | lead lead =>
      refine ⟨position, fun rest => ?_⟩
      rw [utf8Run, lead]
      rfl
  | @last seen _ _ _ _ _ above below few =>
      refine ⟨position + seen.length + 1, fun rest => ?_⟩
      rw [utf8Run, if_pos ⟨above, below⟩, if_pos few]
      rfl
  | more above below many =>
      refine ⟨position, fun rest => ?_⟩
      rw [utf8Run, if_pos ⟨above, below⟩, if_neg many]
      rfl

theorem Utf8Step.unique (h : Utf8Step st b cs st') (h' : Utf8Step st b cs' st₁) : cs = cs' ∧ st' = st₁ := by
  cases h with
  | whole lead =>
      cases h' with
      | whole lead' =>
          cases lead.symm.trans lead'
          exact ⟨rfl, rfl⟩
      | lead lead' => cases lead.symm.trans lead'
  | lead lead =>
      cases h' with
      | whole lead' => cases lead.symm.trans lead'
      | lead lead' =>
          cases lead.symm.trans lead'
          exact ⟨rfl, rfl⟩
  | last _ _ few =>
      cases h' with
      | last => exact ⟨rfl, rfl⟩
      | more _ _ many => exact absurd few many
  | more _ _ many =>
      cases h' with
      | last _ _ few => exact absurd few many
      | more => exact ⟨rfl, rfl⟩

/-- Where the decoder refuses nothing, it makes a step. -/
theorem exists_utf8Step {position : Nat} {done : List Char} {r : List Char × List UInt8}
    (h : utf8Run position done st (b :: rest) = .ok r) : ∃ cs st', Utf8Step st b cs st' := by
  cases st with
  | idle =>
      rw [utf8Run] at h
      split at h
      · cases h
      · next lead => exact ⟨_, _, .whole lead⟩
      · next missing _ _ _ other lead =>
          cases missing with
          | zero => exact (other rfl).elim
          | succ missing => exact ⟨_, _, .lead lead⟩
  | open_ seen value missing low high =>
      rw [utf8Run] at h
      split at h
      · next inside =>
          by_cases few : missing ≤ 1
          · exact ⟨_, _, .last inside.1 inside.2 few⟩
          · exact ⟨_, _, .more inside.1 inside.2 few⟩
      · cases h

namespace Utf8Runs

theorem exists_utf8Run_eq (h : Utf8Runs st bs cs st') (position : Nat) (done : List Char) :
    ∃ position', ∀ rest, utf8Run position done st (bs ++ rest) =
      utf8Run position' (cs ++ done) st' rest := by
  induction h generalizing position done with
  | nil => exact ⟨position, fun _ => rfl⟩
  | cons step _ ih =>
      obtain ⟨position₁, first⟩ := step.exists_utf8Run_eq position done
      obtain ⟨position', others⟩ := ih position₁ _
      refine ⟨position', fun rest => ?_⟩
      rw [List.cons_append, first, others, List.append_assoc]

/-- A run over all the octets gives the characters and what is left open. -/
theorem utf8Run_eq (h : Utf8Runs st bs cs st') (position : Nat) (done : List Char) :
    utf8Run position done st bs = .ok (cs ++ done, st'.seen) := by
  obtain ⟨position', eq⟩ := h.exists_utf8Run_eq position done
  rw [← List.append_nil bs, eq]
  cases st' <;> rfl

theorem append (first : Utf8Runs st bs cs st₁) (second : Utf8Runs st₁ rest cs' st') :
    Utf8Runs st (bs ++ rest) (cs' ++ cs) st' := by
  induction first with
  | nil => rwa [List.append_nil]
  | cons step _ ih =>
      rw [← List.append_assoc]
      exact .cons step (ih second)

/-- A run can be cut anywhere. -/
theorem exists_of_append (h : Utf8Runs st (bs ++ rest) cs st') :
    ∃ cs₁ cs₂ st₁, Utf8Runs st bs cs₁ st₁ ∧ Utf8Runs st₁ rest cs₂ st' ∧ cs = cs₂ ++ cs₁ := by
  induction bs generalizing st cs with
  | nil => exact ⟨[], cs, st, .nil st, h, (List.append_nil cs).symm⟩
  | cons b bs ih =>
      cases h with
      | cons step runs =>
          obtain ⟨cs₁, cs₂, st₁, first, second, rfl⟩ := ih runs
          exact ⟨_, cs₂, st₁, .cons step first, second, List.append_assoc _ _ _⟩

/-- Octets take the decoder from a state to one other state, and put down one text. -/
theorem unique (h : Utf8Runs st bs cs st') (h' : Utf8Runs st bs cs' st₁) : cs = cs' ∧ st' = st₁ := by
  induction h generalizing cs' with
  | nil =>
      cases h' with
      | nil => exact ⟨rfl, rfl⟩
  | cons step _ ih =>
      cases h' with
      | cons step' rest' =>
          obtain ⟨rfl, rfl⟩ := step.unique step'
          obtain ⟨rfl, rfl⟩ := ih rest'
          exact ⟨rfl, rfl⟩

theorem single (step : Utf8Step st b cs st') : Utf8Runs st [b] cs st' := .cons step (.nil st')

/-- What is left open leads from the start to where it was left. -/
theorem seen (h : Utf8Runs st bs cs st') (before : Utf8Runs .idle st.seen [] st) :
    Utf8Runs .idle st'.seen [] st' := by
  induction h with
  | nil => exact before
  | cons step _ ih =>
      refine ih ?_
      cases step with
      | whole => exact .nil .idle
      | lead lead => exact .single (.lead lead)
      | last => exact .nil .idle
      | more above below many => exact before.append (.single (.more above below many))

end Utf8Runs

theorem exists_utf8Runs {position : Nat} {done : List Char} {r : List Char × List UInt8}
    (h : utf8Run position done st bs = .ok r) : ∃ cs st', Utf8Runs st bs cs st' := by
  induction bs generalizing st position done with
  | nil => exact ⟨[], st, .nil st⟩
  | cons b bs ih =>
      obtain ⟨cs, st₁, step⟩ := exists_utf8Step h
      obtain ⟨position', eq⟩ := step.exists_utf8Run_eq position done
      rw [eq] at h
      obtain ⟨cs', st', runs⟩ := ih h
      exact ⟨_, st', .cons step runs⟩

/-! ## States between octets -/

/-- The open sequence has begun, and what goes on with it is not above `0xbf`. -/
def Utf8State.Sound : Utf8State → Prop
  | .idle => True
  | .open_ seen _ _ _ high => seen ≠ [] ∧ high ≤ 0xbf

theorem le_of_utf8Lead? {b low high : UInt8} {missing value : Nat}
    (h : utf8Lead? b = some (missing, value, low, high)) : high ≤ 0xbf := by
  unfold utf8Lead? at h
  repeat' split at h
  all_goals
    simp only [Option.some.injEq, Prod.mk.injEq, reduceCtorEq] at h
  all_goals
    obtain ⟨-, -, -, rfl⟩ := h
    decide

theorem Utf8Step.sound (h : Utf8Step st b cs st') : st'.Sound := by
  cases h with
  | whole | last => trivial
  | lead lead => exact ⟨List.cons_ne_nil _ _, le_of_utf8Lead? lead⟩
  | more => exact ⟨List.append_ne_nil_of_right_ne_nil _ (List.cons_ne_nil _ _), by decide⟩

theorem Utf8Runs.sound (h : Utf8Runs st bs cs st') (before : st.Sound) : st'.Sound := by
  induction h with
  | nil => exact before
  | cons step _ ih => exact ih step.sound

theorem Utf8State.Sound.eq_idle (sound : st.Sound) (closed : st.seen = []) : st = .idle := by
  cases st with
  | idle => rfl
  | open_ => exact absurd closed sound.1

/-- Octets that are decoded and leave nothing open are a run back to the start. -/
theorem runs_of_utf8Run (h : utf8Run 0 [] .idle bs = .ok (cs, [])) : Utf8Runs .idle bs cs .idle := by
  obtain ⟨cs', st', runs⟩ := exists_utf8Runs h
  have same := (runs.utf8Run_eq 0 []).symm.trans h
  simp only [List.append_nil, Except.ok.injEq, Prod.mk.injEq] at same
  obtain ⟨rfl, closed⟩ := same
  exact (runs.sound trivial).eq_idle closed ▸ runs

/-- Octets are those of a text when they are a run that leaves nothing open. -/
theorem ofUtf8?_eq_some_iff {s : String} :
    ofUtf8? bs = some s ↔ Utf8Runs .idle bs s.toList.reverse .idle := by
  constructor
  · intro decoded
    unfold ofUtf8? utf8Decode at decoded
    cases run : utf8Run 0 [] .idle bs with
    | error e => simp [run] at decoded
    | ok r =>
        obtain ⟨cs, seen⟩ := r
        cases seen with
        | cons => simp [run] at decoded
        | nil =>
            simp only [run, Option.some.injEq] at decoded
            subst decoded
            simpa using runs_of_utf8Run run
  · intro runs
    have run := runs.utf8Run_eq 0 []
    simp only [Utf8State.seen] at run
    simp [ofUtf8?, utf8Decode, run]

/-- A surrogate is refused at its second octet. -/
theorem Utf8Runs.lt_of_surrogate (h : Utf8Runs st (0xed :: b :: bs) cs st') (sound : st.Sound) :
    b < 0xa0 := by
  cases h with
  | cons first rest =>
  cases rest with
  | cons second _ =>
  cases first with
  | whole lead => cases lead
  | lead lead =>
      cases lead
      cases second with
      | last _ below => exact UInt8.lt_of_le_of_lt below (by decide)
      | more _ below => exact UInt8.lt_of_le_of_lt below (by decide)
  | last _ below => exact absurd (UInt8.le_trans below sound.2) (by decide)
  | more _ below => exact absurd (UInt8.le_trans below sound.2) (by decide)

/-! ## Octets of a text -/

theorem toList_loop (bs : ByteArray) (i : Nat) (r : List UInt8) :
    ByteArray.toList.loop bs i r = r.reverse ++ bs.data.toList.drop i := by
  fun_induction ByteArray.toList.loop bs i r with
  | case1 i r inside ih =>
      have inside' : i < bs.data.toList.length := inside
      rw [ih, List.drop_eq_getElem_cons inside', List.reverse_cons, List.append_assoc,
        List.singleton_append]
      simp [ByteArray.get!, inside]
  | case2 i r outside =>
      have outside' : bs.data.toList.length ≤ i := Nat.not_lt.mp outside
      rw [List.drop_eq_nil_of_le outside', List.append_nil]

theorem toList_eq (bs : ByteArray) : bs.toList = bs.data.toList := by
  rw [ByteArray.toList, toList_loop]
  rfl

theorem utf8EncodeChar_eq (c : Char) : String.utf8EncodeChar c = utf8Char c := by
  have scalar : c.toNat < 0x110000 := by
    rcases c.valid with h | ⟨-, h⟩
    · exact Nat.lt_trans h (by decide)
    · exact h
  have same : c.val.toNat = c.toNat := rfl
  simp only [String.utf8EncodeChar, utf8Char, same]
  generalize c.toNat = n at scalar
  have one : n ≤ 127 ↔ n < 0x80 := by omega
  have two : n ≤ 2047 ↔ n < 0x800 := by omega
  have three : n ≤ 65535 ↔ n < 0x10000 := by omega
  simp only [one, two, three]
  split
  · rfl
  · split
    · rw [show n / 64 % 32 + 192 = 0xc0 + n / 64 by omega, Nat.add_comm (n % 64)]
    · split
      · rw [show n / 4096 % 16 + 224 = 0xe0 + n / 4096 by omega, Nat.add_comm (n / 64 % 64),
          Nat.add_comm (n % 64)]
      · rw [show n / 262144 % 8 + 240 = 0xf0 + n / 262144 by omega, Nat.add_comm (n / 4096 % 64),
          Nat.add_comm (n / 64 % 64), Nat.add_comm (n % 64)]

/-- A text is encoded as it is by the runtime. -/
theorem toList_toUTF8 (s : String) : s.toUTF8.toList = utf8 s := by
  have encoded : s.toUTF8 = s.toList.utf8Encode := String.utf8Encode_toList.symm
  have same : String.utf8EncodeChar = utf8Char := funext utf8EncodeChar_eq
  rw [toList_eq, encoded, List.utf8Encode, List.toList_data_toByteArray, same, utf8]
end CertMint.Text

namespace CertMint.Ini

open Text

variable {openOctets octets : List UInt8} {cs done : List Char} {st : Utf8State}

theorem holdSurrogate_of_runs {rest : List UInt8} (h : Utf8Runs .idle (octets ++ rest) cs st) :
    holdSurrogate octets = (octets, []) := by
  unfold holdSurrogate
  split
  · next b before ends =>
      split
      · next surrogate =>
          have eq : octets = before.reverse ++ [0xed, b] := by
            rw [← List.reverse_reverse octets, ends]
            simp only [List.reverse_cons, List.append_assoc, List.singleton_append]
          rw [eq, List.append_assoc] at h
          obtain ⟨_, _, _, first, second, _⟩ := h.exists_of_append
          have low := second.lt_of_surrogate (first.sound trivial)
          exact absurd surrogate.1 (UInt8.not_le.mpr low)
      · rfl
  · rfl

theorem decodeBlocks_cons (fuel : Nat) (nonempty : octets.isEmpty = false)
    (runs : Utf8Runs .idle (openOctets ++ octets.take blockSize) cs st)
    (held : holdSurrogate (openOctets ++ octets.take blockSize) =
      (openOctets ++ octets.take blockSize, [])) :
    decodeBlocks (fuel + 1) openOctets done octets =
      decodeBlocks fuel st.seen (cs ++ done) (octets.drop blockSize) := by
  rw [decodeBlocks, nonempty, held]
  simp only [Bool.false_eq_true, if_false, runs.utf8Run_eq, List.append_nil, List.isEmpty_nil,
    Bool.or_true, if_true]

/-- Blocks are decoded as what they are together. -/
theorem decodeBlocks_of_runs {fuel : Nat} (before : Utf8Runs .idle st.seen [] st)
    (runs : Utf8Runs .idle (st.seen ++ octets) cs .idle) (enough : octets.length < fuel) :
    decodeBlocks fuel st.seen done octets = (cs ++ done, none) := by
  induction fuel generalizing octets cs done st with
  | zero => cases enough
  | succ fuel ih =>
      cases empty : octets.isEmpty with
      | true =>
          rw [List.isEmpty_iff] at empty
          subst empty
          rw [List.append_nil] at runs
          -- nothing was left open, so nothing is decoded from it
          have same := (before.utf8Run_eq 0 []).symm.trans (runs.utf8Run_eq 0 [])
          simp only [List.append_nil, Except.ok.injEq, Prod.mk.injEq] at same
          obtain ⟨rfl, closed⟩ := same
          rw [decodeBlocks, List.isEmpty_nil, if_pos rfl, closed]
          rfl
      | false =>
          have whole : st.seen ++ octets =
              (st.seen ++ octets.take blockSize) ++ octets.drop blockSize := by
            rw [List.append_assoc, List.take_append_drop]
          rw [whole] at runs
          obtain ⟨cs₁, cs₂, st₁, first, second, rfl⟩ := runs.exists_of_append
          rw [decodeBlocks_cons fuel empty first (holdSurrogate_of_runs runs), List.append_assoc]
          have opened := first.seen (.nil .idle)
          have left := opened.append second
          rw [List.append_nil] at left
          refine ih opened left ?_
          have some_ : 0 < octets.length := List.length_pos_iff.mpr (List.isEmpty_eq_false_iff.mp empty)
          rw [List.length_drop, blockSize]
          omega

theorem holdSurrogate_eq {ready held : List UInt8} (h : holdSurrogate octets = (ready, held)) :
    octets = ready ++ held ∧ (held = [] ∨ ∃ b, held = [0xed, b] ∧ 0xa0 ≤ b) := by
  unfold holdSurrogate at h
  split at h
  · next b before ends =>
      split at h
      · next surrogate =>
          obtain ⟨rfl, rfl⟩ := Prod.mk.inj h
          refine ⟨?_, .inr ⟨b, rfl, surrogate.1⟩⟩
          rw [← List.reverse_reverse octets, ends]
          simp
      · obtain ⟨rfl, rfl⟩ := Prod.mk.inj h
        exact ⟨(List.append_nil _).symm, .inl rfl⟩
  · obtain ⟨rfl, rfl⟩ := Prod.mk.inj h
    exact ⟨(List.append_nil _).symm, .inl rfl⟩

/-- What a block can leave open: the octets of a character that has begun, or octets that nothing completes. -/
inductive LeftOpen (octets : List UInt8) : Prop
  | begun {st : Utf8State} (runs : Utf8Runs .idle octets [] st)
  | dead (refused : ∀ rest cs st, ¬ Utf8Runs .idle (octets ++ rest) cs st)

theorem leftOpen_surrogate {b : UInt8} (high : 0xa0 ≤ b) : LeftOpen [0xed, b] := by
  apply LeftOpen.dead
  intro rest cs st runs
  exact absurd (runs.lt_of_surrogate trivial) (UInt8.not_lt.mpr high)

theorem runs_of_openFlaw (open_ : LeftOpen openOctets) (flawless : openFlaw openOctets = none) :
    Utf8Runs .idle openOctets [] .idle := by
  unfold openFlaw at flawless
  split at flawless
  · cases flawless
  · next cs run =>
      have runs := runs_of_utf8Run run
      cases open_ with
      | begun runs' =>
          obtain ⟨rfl, -⟩ := runs.unique runs'
          exact runs
      | dead refused =>
          refine absurd ?_ (refused [] cs .idle)
          rwa [List.append_nil]
  · cases flawless

/-- A block that is decoded without a flaw, up to what is left open. -/
theorem exists_of_decodeBlocks {fuel : Nat} (some_ : octets ≠ [])
    (decoded : decodeBlocks (fuel + 1) openOctets done octets = (cs, none)) :
    ∃ ready held cs' st, openOctets ++ octets.take blockSize = ready ++ held ∧
      Utf8Runs .idle ready cs' st ∧ LeftOpen (st.seen ++ held) ∧
      decodeBlocks fuel (st.seen ++ held) (cs' ++ done) (octets.drop blockSize) = (cs, none) := by
  rw [decodeBlocks, if_neg (mt List.isEmpty_iff.mp some_)] at decoded
  rcases hold : holdSurrogate (openOctets ++ octets.take blockSize) with ⟨ready, held⟩
  obtain ⟨parts, kind⟩ := holdSurrogate_eq hold
  simp only [hold] at decoded
  split at decoded
  · cases decoded
  · next run =>
      obtain ⟨cs', st, runs⟩ := exists_utf8Runs run
      have same := (runs.utf8Run_eq 0 []).symm.trans run
      simp only [List.append_nil, Except.ok.injEq, Prod.mk.injEq] at same
      obtain ⟨rfl, rfl⟩ := same
      split at decoded
      · next free =>
          refine ⟨ready, held, cs', st, parts, runs, ?_, decoded⟩
          rcases kind with rfl | ⟨b, rfl, high⟩
          · rw [List.append_nil]
            exact .begun (runs.seen (.nil .idle))
          · simp only [List.isEmpty_cons, Bool.or_false, List.isEmpty_iff] at free
            rw [free]
            exact leftOpen_surrogate high
      · cases decoded

/-- Blocks that are decoded without a flaw can be decoded together. -/
theorem runs_of_decodeBlocks {fuel : Nat} (open_ : LeftOpen openOctets) (enough : octets.length < fuel)
    (decoded : decodeBlocks fuel openOctets done octets = (cs, none)) :
    ∃ cs', Utf8Runs .idle (openOctets ++ octets) cs' .idle ∧ cs = cs' ++ done := by
  induction fuel generalizing openOctets octets done with
  | zero => cases enough
  | succ fuel ih =>
      by_cases empty : octets = []
      · subst empty
        obtain ⟨rfl, flawless⟩ := Prod.mk.inj decoded
        rw [List.append_nil]
        exact ⟨[], runs_of_openFlaw open_ flawless, rfl⟩
      · obtain ⟨ready, held, cs₁, st, parts, runs, left, onward⟩ := exists_of_decodeBlocks empty decoded
        have fewer : (octets.drop blockSize).length < fuel := by
          have count : 0 < octets.length := List.length_pos_iff.mpr empty
          rw [List.length_drop, blockSize]
          omega
        obtain ⟨cs₂, second, rfl⟩ := ih left fewer onward
        -- what was left open is decoded once more, and leads to the same state
        rw [List.append_assoc] at second
        obtain ⟨_, cs₃, _, again, rest, rfl⟩ := second.exists_of_append
        obtain ⟨rfl, rfl⟩ := again.unique (runs.seen (.nil .idle))
        have whole : openOctets ++ octets = ready ++ (held ++ octets.drop blockSize) := by
          rw [← List.append_assoc, ← parts, List.append_assoc, List.take_append_drop]
        refine ⟨cs₃ ++ cs₁, ?_, by simp⟩
        rw [whole]
        exact runs.append rest

/-! ## Lines -/

theorem newlines_of_not_mem {cs : List Char} (plain : '\r' ∉ cs) : newlines cs = cs := by
  induction cs with
  | nil => rfl
  | cons c cs ih =>
      obtain ⟨other, plain⟩ := not_or.mp (mt List.mem_cons.mpr plain)
      rw [newlines, ih plain]
      all_goals
        intros
        exact other (Eq.symm ‹c = '\r'›)

theorem splitLines_append {cs : List Char} (plain : '\n' ∉ cs) (line rest : List Char) :
    splitLines line (cs ++ '\n' :: rest) = (line.reverse ++ cs ++ ['\n']) :: splitLines [] rest := by
  induction cs generalizing line with
  | nil => simp [splitLines]
  | cons c cs ih =>
      obtain ⟨other, plain⟩ := not_or.mp (mt List.mem_cons.mpr plain)
      rw [List.cons_append, splitLines, if_neg (Ne.symm other), ih plain]
      simp

/-- The lines of a text, whatever its line ends. -/
def Source.ofText (text : String) : Source :=
  ⟨(splitLines [] (newlines text.toList)).map String.ofList, none⟩

/-- A file is read as the lines of its text. -/
theorem ofOctets_of_text {text : String} (decoded : ofUtf8? octets = some text) :
    Source.ofOctets octets = .ofText text := by
  have runs := ofUtf8?_eq_some_iff.mp decoded
  have whole : decodeBlocks (octets.length + 1) [] [] octets = (text.toList.reverse ++ [], none) :=
    decodeBlocks_of_runs (show Utf8Runs .idle Utf8State.idle.seen [] .idle from .nil .idle) runs
      (Nat.lt_succ_self _)
  simp [Source.ofOctets, Source.ofText, whole]

/-- Octets that are those of no text have a flaw. -/
theorem flaw_of_no_text (undecoded : ofUtf8? octets = none) : (Source.ofOctets octets).flaw ≠ none := by
  rcases decoded : decodeBlocks (octets.length + 1) [] [] octets with ⟨cs, flaw⟩
  cases flaw with
  | none =>
      obtain ⟨cs', runs, -⟩ := runs_of_decodeBlocks (.begun (.nil .idle)) (Nat.lt_succ_self _) decoded
      have text : ofUtf8? octets = some (String.ofList cs'.reverse) := by
        apply ofUtf8?_eq_some_iff.mpr
        simpa using runs
      cases undecoded.symm.trans text
  | some flaw => simp [Source.ofOctets, decoded]

/-- A text without line ends. -/
def OneLine (s : String) : Prop := '\r' ∉ s.toList ∧ '\n' ∉ s.toList

theorem OneLine.append {s s' : String} (h : OneLine s) (h' : OneLine s') : OneLine (s ++ s') := by
  rw [OneLine, String.toList_append]
  exact ⟨fun member => (List.mem_append.mp member).elim h.1 h'.1,
    fun member => (List.mem_append.mp member).elim h.2 h'.2⟩

/-- The text of lines. -/
def textOf (lines : List String) : String := String.join (lines.map (· ++ "\n"))

theorem toList_textOf (lines : List String) :
    (textOf lines).toList = lines.flatMap fun line => line.toList ++ ['\n'] := by
  rw [textOf, String.toList_join, List.flatMap_map]
  simp only [String.toList_append]
  rfl

theorem splitLines_textOf {lines : List String} (plain : ∀ line ∈ lines, OneLine line) :
    splitLines [] (textOf lines).toList = lines.map fun line => (line ++ "\n").toList := by
  rw [toList_textOf]
  induction lines with
  | nil => rfl
  | cons line lines ih =>
      obtain ⟨⟨_, first⟩, others⟩ := List.forall_mem_cons.mp plain
      rw [List.flatMap_cons, List.append_assoc, List.singleton_append, splitLines_append first,
        ih others, List.map_cons, String.toList_append]
      rfl

/-- The file with the text of lines gives these lines, each with its end. -/
theorem ofOctets_textOf {lines : List String} (plain : ∀ line ∈ lines, OneLine line) :
    Source.ofOctets (utf8 (textOf lines)) = ⟨lines.map (· ++ "\n"), none⟩ := by
  have plainText : '\r' ∉ (textOf lines).toList := by
    rw [toList_textOf, List.mem_flatMap]
    rintro ⟨line, member, inside⟩
    rcases List.mem_append.mp inside with inside | inside
    · exact (plain line member).1 inside
    · exact absurd (List.mem_singleton.mp inside) (by decide)
  rw [ofOctets_of_text (ofUtf8?_utf8 _), Source.ofText, newlines_of_not_mem plainText, splitLines_textOf plain]
  simp [Function.comp_def]

end CertMint.Ini
