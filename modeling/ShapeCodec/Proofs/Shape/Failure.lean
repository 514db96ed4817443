/-
# How readers fail

A reader is meant to fail with a fault of its own kind: a malformed shape, an unusable argument
or an unknown metric. One other fault gets out of every reader, the overflow of a whole number
too large for a double, since what turns complaints into faults lets it pass. Where nothing is shown
in a message, no third fault ever does, on any value.

A reader stops at the first fault, so a number that is too large is seen only where everything
that is read before it was in order. `Reads r fits tooLarge` says of an outcome `r` when it is a
result and when it is an overflow, and that it is one of the meant faults otherwise; the
conditions of a chain of reads follow from those of its links (`Reads.bind`).

Key definitions: `Fault.IsConversion`, `FailsOnly`, `Clean`, `Alike`, `Fails`, `Reads`, `Judges`,
`Value.TooLarge`, `Value.Fits`.
Key theorems: `FailsOnly.bind`, `FailsOnly.mapM`, `Alike.bind`, `Reads.bind`, `Reads.bindFails`,
`Value.acceptNumber_judges`.
-/
import ShapeCodec.Shape.Decode

namespace ShapeCodec

variable {α β : Type}

/-! ### Outcomes -/

/-- The faults that a conversion is meant to fail with. -/
def Fault.IsConversion : Fault → Prop
  | malformedShape _ => True
  | unusableArgument _ => True
  | unknownMetric _ => True
  | _ => False

/-- The faults of stored data. -/
def Fault.IsMalformedShape : Fault → Prop
  | malformedShape _ => True
  | _ => False

/-- The faults of a GeoJSON value or of what was asked for. -/
def Fault.IsUnusableArgument : Fault → Prop
  | unusableArgument _ => True
  | _ => False

/-- An outcome that is a result or one of the given faults. -/
def FailsOnly (r : Except Fault α) (allowed : Fault → Prop) : Prop :=
  ∀ f, r = .error f → allowed f

/-- An outcome that is a result or a meant fault. -/
def Clean (r : Except Fault α) : Prop := ∀ f, r = .error f → f.IsConversion

/-- An outcome that is an overflow under exactly the given condition, and otherwise a result or a
meant fault. -/
structure Fails (r : Except Fault α) (tooLarge : Prop) : Prop where
  contained : ∀ f, r = .error f → f = .overflow ∨ f.IsConversion
  overflow_iff : r = .error .overflow ↔ tooLarge

/-- An outcome of which it is also known when it is a result. -/
structure Reads (r : Except Fault α) (fits tooLarge : Prop) : Prop extends Fails r tooLarge where
  ok_iff : (∃ a, r = .ok a) ↔ fits

/-- Two outcomes side by side: results that are related by `R`, or faults that are related
by `S`. -/
inductive Alike (R : α → β → Prop) (S : Fault → Fault → Prop) :
    Except Fault α → Except Fault β → Prop
  | ok {a : α} {b : β} (h : R a b) : Alike R S (.ok a) (.ok b)
  | error {e f : Fault} (h : S e f) : Alike R S (.error e) (.error f)

variable {r : Except Fault α} {g : α → Except Fault β} {f t F T : Prop}

theorem Fault.IsUnusableArgument.isConversion {e : Fault} (h : e.IsUnusableArgument) :
    e.IsConversion := by
  cases e with
  | unusableArgument cause => trivial
  | _ => exact h.elim

section
variable {P Q : Fault → Prop}

theorem FailsOnly.ok (a : α) : FailsOnly (.ok a) P := nofun

theorem FailsOnly.error {e : Fault} (h : P e) : FailsOnly (.error e : Except Fault α) P := by
  rintro _ ⟨⟩
  exact h

theorem FailsOnly.mono (h : FailsOnly r P) (hPQ : ∀ e, P e → Q e) : FailsOnly r Q :=
  fun e he => hPQ e (h e he)

/-- A chain fails with the faults of its links. -/
theorem FailsOnly.bind (hr : FailsOnly r P) (hg : ∀ a, r = .ok a → FailsOnly (g a) P) :
    FailsOnly (r >>= g) P := by
  cases hcase : r with
  | error e =>
    rintro _ ⟨⟩
    exact hr e hcase
  | ok a => exact hg a hcase

/-- A row fails with the faults of its elements. -/
theorem FailsOnly.mapM {read : α → Except Fault β} {row : List α}
    (h : ∀ a ∈ row, FailsOnly (read a) P) : FailsOnly (row.mapM read) P := by
  induction row with
  | nil => exact FailsOnly.ok []
  | cons a rest ih =>
    have hrest : FailsOnly (rest.mapM read) P := ih fun u hu => h u (List.mem_cons_of_mem a hu)
    rw [List.mapM_cons]
    refine (h a List.mem_cons_self).bind fun b _ => ?_
    exact hrest.bind fun results _ => FailsOnly.ok (b :: results)

theorem FailsOnly.map (h : FailsOnly r P) (k : α → β) : FailsOnly (r.map k) P := by
  cases r with
  | error e =>
    rintro _ ⟨⟩
    exact h e rfl
  | ok a => nofun

end

section
variable {γ δ : Type} {R : α → β → Prop} {S : Fault → Fault → Prop} {s : Except Fault β}

theorem Alike.map (h : Alike R S r s) {Q : γ → δ → Prop} {k : α → γ} {l : β → δ}
    (hQ : ∀ a b, R a b → Q (k a) (l b)) : Alike Q S (r.map k) (s.map l) := by
  cases h with
  | ok h => exact .ok (hQ _ _ h)
  | error h => exact .error h

/-- Related steps, followed by steps that are related where the results are. -/
theorem Alike.bind (h : Alike R S r s) {Q : γ → δ → Prop} {k : α → Except Fault γ}
    {l : β → Except Fault δ} (hnext : ∀ a b, R a b → Alike Q S (k a) (l b)) :
    Alike Q S (r >>= k) (s >>= l) := by
  cases h with
  | ok h => exact hnext _ _ h
  | error h => exact .error h

/-- One and the same step in front of related ones. -/
theorem Alike.after (r : Except Fault α) (hS : ∀ e, S e e) {Q : γ → δ → Prop}
    {k : α → Except Fault γ} {l : α → Except Fault δ} (hnext : ∀ a, Alike Q S (k a) (l a)) :
    Alike Q S (r >>= k) (r >>= l) := by
  cases r with
  | ok a => exact hnext a
  | error e => exact .error (hS e)

end

theorem Fails.clean_iff (h : Fails r t) : Clean r ↔ ¬ t := by
  rw [← h.overflow_iff]
  constructor
  · intro hc ho
    exact hc _ ho
  · intro hn e he
    rcases h.contained e he with rfl | hf
    · exact absurd he hn
    · exact hf

theorem Fails.congr (h : Fails r t) (ht : t ↔ T) : Fails r T :=
  ⟨h.contained, h.overflow_iff.trans ht⟩

theorem Reads.congr (h : Reads r f t) (hf : f ↔ F) (ht : t ↔ T) : Reads r F T :=
  ⟨h.toFails.congr ht, h.ok_iff.trans hf⟩

theorem Reads.ok (a : α) : Reads (.ok a) True False :=
  ⟨⟨nofun, by simp⟩, by simp⟩

theorem Reads.error {e : Fault} (h : e.IsConversion) : Reads (.error e : Except Fault α) False False := by
  refine ⟨⟨?_, ?_⟩, by simp⟩
  · rintro _ ⟨⟩
    exact Or.inr h
  · constructor
    · rintro ⟨⟩
      exact h
    · exact False.elim

/-- A meant fault, where neither a result nor an overflow is to be had. -/
theorem Reads.meant {e : Fault} (he : e.IsConversion) (hf : ¬ f) (ht : ¬ t) :
    Reads (.error e : Except Fault α) f t :=
  (Reads.error he).congr (by simp [hf]) (by simp [ht])

theorem Fails.meant {e : Fault} (he : e.IsConversion) (ht : ¬ t) :
    Fails (.error e : Except Fault α) t :=
  (Reads.meant he id ht).toFails

/-- A clean outcome never overflows. -/
theorem Clean.reads (h : Clean r) : Reads r (∃ a, r = .ok a) False :=
  ⟨⟨fun e he => Or.inr (h e he), fun he => h _ he, False.elim⟩, Iff.rfl⟩

/-- What is known of a fault does not depend on the result it stands in for. -/
theorem Fails.recast {e : Fault} (h : Fails (.error e : Except Fault α) t) :
    Fails (.error e : Except Fault β) t := by
  refine ⟨fun e' he => h.contained e' (by cases he; rfl), ?_⟩
  simpa using h.overflow_iff

/-- A chain overflows in its first link, or in the rest where the first link gives a result. -/
theorem Reads.bindFails (h : Reads r f t) (hg : ∀ a, r = .ok a → Fails (g a) T) :
    Fails (r >>= g) (t ∨ f ∧ T) := by
  cases hr : r with
  | error e =>
    rw [hr] at h
    have hf : ¬ f := fun hf => by
      obtain ⟨a, ha⟩ := h.ok_iff.mpr hf
      cases ha
    exact h.toFails.recast.congr (by simp [hf])
  | ok a =>
    rw [hr] at h
    have hf : f := h.ok_iff.mp ⟨a, rfl⟩
    have ht : ¬ t := fun ht => by cases h.overflow_iff.mpr ht
    refine ⟨(hg a hr).contained, (hg a hr).overflow_iff.trans ?_⟩
    simp [hf, ht]

theorem Reads.bind (h : Reads r f t) (hg : ∀ a, r = .ok a → Reads (g a) F T) :
    Reads (r >>= g) (f ∧ F) (t ∨ f ∧ T) := by
  refine ⟨h.bindFails fun a ha => (hg a ha).toFails, ?_⟩
  cases hr : r with
  | error e =>
    rw [hr] at h
    have hf : ¬ f := fun hf => by
      obtain ⟨a, ha⟩ := h.ok_iff.mpr hf
      cases ha
    simp [hf, Bind.bind, Except.bind]
  | ok a =>
    rw [hr] at h
    have hf : f := h.ok_iff.mp ⟨a, rfl⟩
    simpa [hf, Bind.bind, Except.bind] using (hg a hr).ok_iff

theorem Fails.map (h : Fails r t) (k : α → β) : Fails (r.map k) t := by
  cases r with
  | error e => exact h.recast
  | ok a => exact ⟨nofun, by simpa [Except.map] using h.overflow_iff⟩

theorem Reads.map (h : Reads r f t) (k : α → β) : Reads (r.map k) f t := by
  refine ⟨h.toFails.map k, ?_⟩
  cases r with
  | error e => simpa [Except.map] using h.ok_iff
  | ok a => simpa [Except.map] using h.ok_iff

/-! ### Numbers -/

/-- A whole number past every double. -/
def Value.TooLarge (v : Value) : Prop := ∃ n : Int, v = .int n ∧ overflowBound ≤ n.natAbs

/-- A number that a double can stand for. -/
def Value.Fits (v : Value) : Prop :=
  (∃ x, v = .float x) ∨ ∃ n : Int, v = .int n ∧ n.natAbs < overflowBound

/-- What is known of a verdict: when it accepts and when it overflows. -/
structure Judges (v : Verdict α) (fits tooLarge : Prop) : Prop where
  accepted_iff : (∃ a, v = .accepted a) ↔ fits
  overflow_iff : v = .overflow ↔ tooLarge

theorem Value.acceptNumber_judges (v : Value) : Judges v.acceptNumber v.Fits v.TooLarge := by
  unfold Value.acceptNumber
  split
  · exact ⟨by simp [Value.Fits], by simp [Value.TooLarge]⟩
  · next n =>
    by_cases h : n.natAbs < overflowBound
    · have hn : ¬ overflowBound ≤ n.natAbs := Nat.not_le.mpr h
      exact ⟨by simp [floatOfInt?, h, Value.Fits], by simp [floatOfInt?, h, hn, Value.TooLarge]⟩
    · have hn : overflowBound ≤ n.natAbs := Nat.not_lt.mp h
      exact ⟨by simp [floatOfInt?, h, Value.Fits], by simp [floatOfInt?, h, hn, Value.TooLarge]⟩
  · next hfloat hint =>
    refine ⟨?_, ?_⟩
    · simp only [Verdict.refuse, reduceCtorEq, exists_false, false_iff, Value.Fits]
      rintro (⟨x, rfl⟩ | ⟨n, rfl, -⟩)
      · exact hfloat x rfl
      · exact hint n rfl
    · simp only [Verdict.refuse, reduceCtorEq, false_iff, Value.TooLarge]
      rintro ⟨n, rfl, -⟩
      exact hint n rfl

theorem Judges.within {v : Verdict α} (h : Judges v f t) (place : String) :
    Judges (v.within place) f t := by
  rw [← h.accepted_iff, ← h.overflow_iff]
  cases v <;> exact ⟨by simp [Verdict.within], by simp [Verdict.within]⟩

theorem Judges.both {v : Verdict α} {w : Verdict β} (hv : Judges v f t) (hw : Judges w F T) :
    Judges (v.both w) (f ∧ F) (t ∨ T) := by
  rw [← hv.accepted_iff, ← hw.accepted_iff, ← hv.overflow_iff, ← hw.overflow_iff]
  cases v <;> cases w <;> exact ⟨by simp [Verdict.both], by simp [Verdict.both]⟩

theorem Judges.map {v : Verdict α} (h : Judges v f t) (k : α → β) : Judges (v.map k) f t := by
  rw [← h.accepted_iff, ← h.overflow_iff]
  cases v <;> exact ⟨by simp [Verdict.map], by simp [Verdict.map]⟩

theorem Judges.orMalformed {v : Verdict α} (h : Judges v f t) (subject : String) :
    Reads (v.orMalformed subject) f t := by
  rw [← h.accepted_iff, ← h.overflow_iff]
  cases v with
  | accepted a => exact (Reads.ok a).congr (by simp) (by simp)
  | refused cs => exact (Reads.error (e := .malformedShape _) trivial).congr (by simp) (by simp)
  | overflow => exact ⟨⟨fun e he => Or.inl (by cases he; rfl), by simp [Verdict.orMalformed]⟩,
      by simp [Verdict.orMalformed]⟩

theorem Judges.orUnusable {v : Verdict α} (h : Judges v f t) (subject : String) :
    Reads (v.orUnusable subject) f t := by
  rw [← h.accepted_iff, ← h.overflow_iff]
  cases v with
  | accepted a => exact (Reads.ok a).congr (by simp) (by simp)
  | refused cs => exact (Reads.error (e := .unusableArgument _) trivial).congr (by simp) (by simp)
  | overflow => exact ⟨⟨fun e he => Or.inl (by cases he; rfl), by simp [Verdict.orUnusable]⟩,
      by simp [Verdict.orUnusable]⟩

theorem Point.ofCoordinates_judges (x y : Value) :
    Judges (Point.ofCoordinates x y) (x.Fits ∧ y.Fits) (x.TooLarge ∨ y.TooLarge) :=
  ((x.acceptNumber_judges.within "x").both (y.acceptNumber_judges.within "y")).map _

end ShapeCodec
