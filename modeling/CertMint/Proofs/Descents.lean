import CertMint.Proofs.Issuing
import CertMint.Proofs.Measuring

/-! # Descents

A descent is the run of the loop that issues the certificates of a chain, from the root down: which key
pairs and serial numbers it drew, and which certificate it issued at each position. What is true of
chains is proved of descents, by induction on the position.
-/

namespace CertMint.Mint

open X509

/-! ## Descents -/

/-- The certificates from a position down to the end, the lowest first, with the key pairs and serial
    numbers that were drawn for them, in the order in which they were drawn. The key pairs at hand are
    those of the issuer and of the subject at the position; the clock has been read `reading` times. -/
inductive Descent (b : Builder) (invalid : Datum) (clock : Nat → Option Moment) :
    Nat → Rsa.KeyPair → Rsa.KeyPair → Nat → List Rsa.KeyPair → List Datum → List Certificate → Prop where
  /-- The certificate at the end. -/
  | last {issuer subject : Rsa.KeyPair} {reading : Nat} {serial : Datum} {now : Moment} {c : Certificate}
      (shows : clock reading = some now)
      (issued : IssuedAs b.forge issuer subject (!Datum.same (.int (0 : Nat)) invalid) 0 serial now c) :
      Descent b invalid clock 0 issuer subject reading [] [serial] [c]
  /-- A certificate, and those below it; its subject issues the one below it. -/
  | next {position reading : Nat} {issuer subject below : Rsa.KeyPair} {serial : Datum} {now : Moment}
      {c : Certificate} {keys : List Rsa.KeyPair} {serials : List Datum} {cs : List Certificate}
      (shows : clock reading = some now)
      (issued : IssuedAs b.forge issuer subject (!Datum.same (.int (position + 1 : Nat)) invalid)
        (position + 1) serial now c)
      (rest : Descent b invalid clock position subject below (reading + 1) keys serials cs) :
      Descent b invalid clock (position + 1) issuer subject reading (below :: keys) (serial :: serials)
        (cs ++ [c])

section Running

variable {b : Builder} {invalid : Datum} {position : Nat} {issuer subject : Rsa.KeyPair}
  {w w' : Workshop} {cs : List Certificate}

/-- The loop runs as a descent, which takes a serial number and reads the clock for each certificate
    and takes a key pair for each but the first. -/
theorem descent_of_certificatesFrom
    (h : (b.certificatesFrom invalid issuer subject position).perform w = (.ok cs, w')) :
    ∃ keys serials, Spends w w' (keys.map .ok) (serials.map .ok) (position + 1) ∧
      Descent b invalid w.clock position issuer subject w.readings keys serials cs := by
  induction position generalizing issuer subject w cs with
  | zero =>
      rw [Builder.certificatesFrom, Work.perform_bind_eq_ok] at h
      obtain ⟨c, w₁, issue, done⟩ := h
      obtain ⟨same, rfl⟩ := Prod.mk.inj done
      obtain rfl := Except.ok.inj same
      obtain ⟨serial, now, spends, shows, issued⟩ := issued_of_issue issue
      exact ⟨[], [serial], spends, .last shows issued⟩
  | succ position ih =>
      simp only [Builder.certificatesFrom, Work.perform_bind_eq_ok] at h
      obtain ⟨c, w₁, issue, below, w₂, generation, cs', w₃, descent, done⟩ := h
      obtain ⟨same, rfl⟩ := Prod.mk.inj done
      obtain rfl := Except.ok.inj same
      obtain ⟨serial, now, spends, shows, issued⟩ := issued_of_issue issue
      have drawn := drawn_of_generate generation
      obtain ⟨keys, serials, spendsBelow, rest⟩ := ih descent
      have clock := drawn.clock_eq.trans spends.clock_eq
      have reading : w₂.readings = w.readings + 1 := drawn.readings_eq.trans spends.readings_eq
      rw [clock, reading] at rest
      refine ⟨below :: keys, serial :: serials, ?_, .next shows issued rest⟩
      have all := (spends.trans drawn).trans spendsBelow
      rwa [Nat.add_zero, Nat.add_comm 1] at all

/-- The work that is measured when a chain is built: a key pair for the root, and the loop. -/
theorem descent_of_measuredIf
    (h : (measuredIf b.measures "build_chain" [("invalid_position", invalid)] (do
      let rootPair ← generate b.settings
      b.certificatesFrom invalid rootPair rootPair (chainLength - 1))).perform w = (.ok cs, w')) :
    ∃ root keys serials, Spends w w' ((root :: keys).map .ok) (serials.map .ok) 4 ∧
      Descent b invalid w.clock 3 root root w.readings keys serials cs := by
  obtain ⟨w₁, w₂, work, before, after⟩ := exists_of_measuredIf h
  obtain ⟨root, w₃, generation, loop⟩ := Work.perform_bind_eq_ok.mp work
  have drawn := drawn_of_generate generation
  obtain ⟨keys, serials, spends, descent⟩ := descent_of_certificatesFrom loop
  have clock := drawn.clock_eq.trans before.clock_eq
  have reading : w₃.readings = w.readings := drawn.readings_eq.trans before.readings_eq
  rw [clock, reading] at descent
  refine ⟨root, keys, serials, ?_, descent⟩
  have all := before.toSpends.between (drawn.trans spends) after.toSpends
  rwa [Nat.zero_add] at all

/-- What follows on the measured work, with as many certificates as a chain has, ends with a chain. -/
theorem exists_chain_of_length {shown : String} (written : invalid.plain? = some shown)
    (length : cs.length = chainLength) (w : Workshop) :
    ∃ chain w', (do
        let shown ← Work.ofExcept invalid.plain
        Work.note (.of .info chainLogger
          ("Built certificate chain (invalid position: " ++ shown ++ ")"))
        Work.ofExcept (Chain.of cs)).perform w = (.ok chain, w') ∧ Spends w w' [] [] 0 := by
  simp only [Work.perform_bind, Work.perform_ofExcept, Work.perform_note, Datum.plain, written, Chain.of,
    dif_pos length]
  exact ⟨_, _, rfl, rfl, rfl, rfl, rfl, rfl⟩

/-- A chain is what a descent from its root issued. The root issues itself. -/
theorem descent_of_chain {chain : Chain} (h : (b.chain invalid).perform w = (.ok chain, w')) :
    ∃ root keys serials, Spends w w' ((root :: keys).map .ok) (serials.map .ok) 4 ∧
      Descent b invalid w.clock 3 root root w.readings keys serials chain.certificates := by
  simp only [Builder.chain, Work.perform_bind_eq_ok, Work.perform_ofExcept, Work.perform_note] at h
  obtain ⟨_, w₁, checked, cs, w₂, measured, _, w₃, written, _, w₄, noted, made⟩ := h
  obtain ⟨-, rfl⟩ := Prod.mk.inj checked
  obtain ⟨-, rfl⟩ := Prod.mk.inj written
  obtain ⟨-, rfl⟩ := Prod.mk.inj noted
  obtain ⟨whole, rfl⟩ := Prod.mk.inj made
  obtain ⟨root, keys, serials, spends, descent⟩ := descent_of_measuredIf measured
  have certificates : chain.certificates = cs := by
    unfold Chain.of at whole
    split at whole
    · rw [← Except.ok.inj whole]
    · cases whole
  rw [certificates]
  exact ⟨root, keys, serials, ⟨spends.keys_eq, spends.serials_eq, spends.readings_eq, spends.clock_eq,
    spends.maker_eq⟩,
    descent⟩

end Running

/-! ## What descents issue -/

namespace Descent

variable {b : Builder} {invalid : Datum} {clock : Nat → Option Moment} {position reading : Nat}
  {issuer subject : Rsa.KeyPair} {keys : List Rsa.KeyPair} {serials : List Datum}
  {cs : List Certificate}

theorem length_eq (h : Descent b invalid clock position issuer subject reading keys serials cs) :
    cs.length = position + 1 := by
  induction h with
  | last => rfl
  | next _ _ _ ih => rw [List.length_append, ih, List.length_singleton]

/-- The certificate at a position was issued at that distance from the end, with the valid window
    unless the position is the one given, and as of the reading of the clock at its turn. -/
theorem exists_issuedAs (h : Descent b invalid clock position issuer subject reading keys serials cs)
    {i : Nat} (inside : i ≤ position) :
    ∃ issuer subject serial now c, cs[i]? = some c ∧ clock (reading + (position - i)) = some now ∧
      IssuedAs b.forge issuer subject (!Datum.same (.int i) invalid) i serial now c := by
  induction h with
  | @last issuer subject _ serial now c shows issued =>
      obtain rfl : i = 0 := Nat.le_zero.mp inside
      exact ⟨issuer, subject, serial, now, c, rfl, shows, issued⟩
  | @next position reading issuer subject below serial now c keys serials cs shows issued rest ih =>
      have length := rest.length_eq
      rcases Nat.lt_or_eq_of_le inside with lower | rfl
      · obtain ⟨issuer', subject', serial', now', c', at_, shows', issued'⟩ :=
          ih (Nat.le_of_lt_succ lower)
        refine ⟨issuer', subject', serial', now', c', ?_, ?_, issued'⟩
        · rwa [List.getElem?_append_left (by omega)]
        · rwa [show reading + (position + 1 - i) = reading + 1 + (position - i) by omega]
      · refine ⟨issuer, subject, serial, now, c, ?_, ?_, issued⟩
        · rw [List.getElem?_append_right (by omega), length, Nat.sub_self]
          rfl
        · rwa [Nat.sub_self]

theorem issued (h : Descent b invalid clock position issuer subject reading keys serials cs) :
    ∀ c ∈ cs, Issued c := by
  induction h with
  | last _ issued =>
      intro c member
      rw [List.mem_singleton.mp member]
      exact issued.issued
  | next _ issued _ ih =>
      intro c member
      rcases List.mem_append.mp member with below | own
      · exact ih c below
      · rw [List.mem_singleton.mp own]
        exact issued.issued

/-- The highest certificate is that of the key pairs at hand. -/
theorem getLast?_eq (h : Descent b invalid clock position issuer subject reading keys serials cs) :
    ∃ serial now c, cs.getLast? = some c ∧
      IssuedAs b.forge issuer subject (!Datum.same (.int position) invalid) position serial now c := by
  cases h with
  | last shows issued => exact ⟨_, _, _, rfl, issued⟩
  | next shows issued rest => exact ⟨_, _, _, List.getLast?_concat, issued⟩

end Descent

/-- Each certificate of a chain was issued at its distance from the end, as of the reading of the clock at
    its turn. -/
theorem exists_issuedAs_of_chain {b : Builder} {invalid : Datum} {w w' : Workshop} {chain : Chain}
    (built : (b.chain invalid).perform w = (.ok chain, w')) (i : Fin 4) :
    ∃ issuer subject serial now, w.clock (w.readings + (3 - i)) = some now ∧
      IssuedAs b.forge issuer subject (!Datum.same (.int i) invalid) i serial now (chain.at_ i) := by
  obtain ⟨_, _, _, _, descent⟩ := descent_of_chain built
  obtain ⟨issuer, subject, serial, now, c, at_, shows, issued⟩ :=
    descent.exists_issuedAs (Nat.le_of_lt_succ i.isLt)
  obtain rfl : chain.at_ i = c := (List.getElem?_eq_some_iff.mp at_).2
  exact ⟨issuer, subject, serial, now, shows, issued⟩

end CertMint.Mint
