/-!
# Effects that may fail

A step of the keeper and a request to the kernel or the store are of one kind: they work on a state,
they may fail, and what they changed before they failed stays changed. Here is how they end, piece
by piece: a sequence goes on from where its first part ended, and a loop either runs through or
stops at the first element that fails.
-/
namespace TunnelKeeper

section Plain

variable {ε α β : Type}

/-- Where nothing is changed, a sequence succeeds if both of its parts do. -/
theorem bind_eq_ok_iff {r : Except ε α} {f : α → Except ε β} {b : β} :
    (r >>= f) = .ok b ↔ ∃ a, r = .ok a ∧ f a = .ok b := by
  cases r with
  | error e => simp [bind, Except.bind]
  | ok a => simp [bind, Except.bind]

/-- Where nothing is changed, a sequence fails if the first of its parts that fails does so. -/
theorem bind_eq_error_iff {r : Except ε α} {f : α → Except ε β} {e : ε} :
    (r >>= f) = .error e ↔ r = .error e ∨ ∃ a, r = .ok a ∧ f a = .error e := by
  cases r with
  | error e => simp [bind, Except.bind]
  | ok a => simp [bind, Except.bind]

/-- A check that fails ends the sequence that it begins. -/
theorem check_eq_ok_iff {c : Prop} [Decidable c] {e : ε} {f : α → Except ε β} {r : Except ε β}
    {b : β} : (if c then throw e >>= f else r) = .ok b ↔ ¬ c ∧ r = .ok b := by
  split
  case isTrue h => simp [h, bind, Except.bind, throw, throwThe, MonadExceptOf.throw]
  case isFalse h => simp [h]

end Plain

abbrev Effect (ε σ α : Type) := ExceptT ε (StateM σ) α

namespace Effect

variable {ε σ α β : Type}

/-- What holds of the result and of the state in which an effect ends. -/
def Ends (x : Effect ε σ α) (s : σ) (R : Except ε α → σ → Prop) : Prop :=
  R (x.run.run s).1 (x.run.run s).2

def andThen (f : α → Effect ε σ β) (R : Except ε β → σ → Prop) : Except ε α → σ → Prop
  | .ok a, s => Ends (f a) s R
  | .error e, s => R (.error e) s

@[simp] theorem andThen_ok {f : α → Effect ε σ β} {R : Except ε β → σ → Prop} {a : α} {s : σ} :
    andThen f R (.ok a) s ↔ Ends (f a) s R := Iff.rfl

@[simp] theorem andThen_error {f : α → Effect ε σ β} {R : Except ε β → σ → Prop} {e : ε} {s : σ} :
    andThen f R (.error e) s ↔ R (.error e) s := Iff.rfl

theorem run_bind (x : Effect ε σ α) (f : α → Effect ε σ β) (s : σ) :
    (x >>= f).run.run s =
      match x.run.run s with
      | (.ok a, t) => (f a).run.run t
      | (.error e, t) => (.error e, t) := by
  rw [ExceptT.run_bind, StateT.run_bind]
  rcases x.run.run s with ⟨_ | _, t⟩ <;> rfl

/-- A sequence is done where both of its parts are. -/
theorem run_bind_eq_ok_iff {x : Effect ε σ α} {f : α → Effect ε σ β} {s t : σ} {b : β} :
    (x >>= f).run.run s = (.ok b, t) ↔
      ∃ a u, x.run.run s = (.ok a, u) ∧ (f a).run.run u = (.ok b, t) := by
  rw [run_bind]
  rcases x.run.run s with ⟨e | a, u⟩
  case error => exact ⟨nofun, fun ⟨_, _, done, _⟩ => nomatch done⟩
  case ok =>
    constructor
    · exact fun done => ⟨a, u, rfl, done⟩
    · rintro ⟨_, _, ⟨⟩, done⟩
      exact done

@[simp] theorem ends_bind {x : Effect ε σ α} {f : α → Effect ε σ β} {s : σ}
    {R : Except ε β → σ → Prop} : Ends (x >>= f) s R ↔ Ends x s (andThen f R) := by
  unfold Ends
  rw [run_bind]
  rcases x.run.run s with ⟨_ | _, t⟩ <;> rfl

theorem Ends.mono {x : Effect ε σ α} {s : σ} {R R' : Except ε α → σ → Prop} (h : Ends x s R)
    (hR : ∀ r t, R r t → R' r t) : Ends x s R' :=
  hR _ _ h

theorem Ends.of_run {x : Effect ε σ α} {s t : σ} {r : Except ε α} {R : Except ε α → σ → Prop}
    (h : Ends x s R) (run : x.run.run s = (r, t)) : R r t := by
  unfold Ends at h
  rw [run] at h
  exact h

@[simp] theorem ends_pure {a : α} {s : σ} {R : Except ε α → σ → Prop} :
    Ends (pure a) s R ↔ R (.ok a) s := Iff.rfl

@[simp] theorem ends_throw {e : ε} {s : σ} {R : Except ε α → σ → Prop} :
    Ends (throw e) s R ↔ R (.error e) s := Iff.rfl

@[simp] theorem ends_get {s : σ} {R : Except ε σ → σ → Prop} : Ends get s R ↔ R (.ok s) s := Iff.rfl

@[simp] theorem ends_set {s t : σ} {R : Except ε PUnit → σ → Prop} :
    Ends (set t) s R ↔ R (.ok ()) t := Iff.rfl

@[simp] theorem ends_modify {f : σ → σ} {s : σ} {R : Except ε Unit → σ → Prop} :
    Ends (modify f) s R ↔ R (.ok ()) (f s) := Iff.rfl

/-- What an effect keeps however it ends, and what holds of its results and of its errors. -/
def Yields (I : σ → Prop) (P : α → Prop) (E : ε → Prop) (x : Effect ε σ α) : Prop :=
  ∀ s, I s → Ends x s fun r t => I t ∧ (∀ a, r = .ok a → P a) ∧ ∀ e, r = .error e → E e

namespace Yields

variable {I : σ → Prop} {P : α → Prop} {E : ε → Prop}

theorem pure {a : α} (h : P a) : Yields I P E (pure a : Effect ε σ α) := by
  intro s hs
  refine ends_pure.2 ⟨hs, ?_, nofun⟩
  rintro _ ⟨⟩
  exact h

theorem mono {P' : α → Prop} {E' : ε → Prop} {x : Effect ε σ α} (h : Yields I P E x)
    (hP : ∀ a, P a → P' a) (hE : ∀ e, E e → E' e) : Yields I P' E' x := by
  intro s hs
  apply (h s hs).mono
  rintro r t ⟨ht, results, errors⟩
  exact ⟨ht, fun a ha => hP a (results a ha), fun e he => hE e (errors e he)⟩

theorem anyError {x : Effect ε σ α} (h : Yields I P E x) : Yields I P (fun _ => True) x :=
  h.mono (fun _ ha => ha) fun _ _ => trivial

theorem bind {Q : β → Prop} {x : Effect ε σ α} {f : α → Effect ε σ β} (h : Yields I P E x)
    (hf : ∀ a, P a → Yields I Q E (f a)) : Yields I Q E (x >>= f) := by
  intro s hs
  rw [ends_bind]
  apply (h s hs).mono
  rintro r t ⟨ht, results, errors⟩
  cases r with
  | ok a => exact hf a (results a rfl) t ht
  | error e =>
    refine ⟨ht, nofun, ?_⟩
    rintro _ ⟨⟩
    exact errors e rfl

theorem mapM {f : β → Effect ε σ α} {bs : List β} (h : ∀ b ∈ bs, Yields I P E (f b)) :
    Yields I (fun as => ∀ a ∈ as, P a) E (bs.mapM f) := by
  induction bs with
  | nil => exact pure (List.forall_mem_nil P)
  | cons b bs ih =>
    rw [List.forall_mem_cons] at h
    rw [List.mapM_cons]
    apply h.1.bind
    intro a ha
    apply (ih h.2).bind
    intro as has
    exact pure (List.forall_mem_cons.2 ⟨ha, has⟩)

theorem forM {f : β → Effect ε σ Unit} {bs : List β}
    (h : ∀ b ∈ bs, Yields I (fun _ => True) E (f b)) : Yields I (fun _ => True) E (bs.forM f) := by
  induction bs with
  | nil => exact pure trivial
  | cons b bs ih =>
    rw [List.forall_mem_cons] at h
    apply h.1.bind
    intro _ _
    exact ih h.2

end Yields

/-- What every part of a loop keeps, however it ends, the loop keeps. -/
theorem keeps_forM {I : σ → Prop} {f : β → Effect ε σ Unit} {bs : List β} {s : σ}
    (h : ∀ b ∈ bs, ∀ s, I s → Ends (f b) s fun _ t => I t) (hs : I s) :
    Ends (bs.forM f) s fun _ t => I t := by
  have all : Yields I (fun _ => True) (fun _ => True) (bs.forM f) := by
    apply Yields.forM
    intro b hb t ht
    apply (h b hb t ht).mono
    intro _ _ kept
    exact ⟨kept, fun _ _ => trivial, fun _ _ => trivial⟩
  apply (all s hs).mono
  intro _ _ kept
  exact kept.1

/-- How a loop ends: it has run through, or it stopped at an element, after those before it. -/
inductive LoopEnds (go : β → σ → σ) (stop : β → σ → ε → σ → Prop) (bs : List β) (s : σ) :
    Except ε Unit → σ → Prop
  | done : LoopEnds go stop bs s (.ok ()) (bs.foldl (fun s b => go b s) s)
  | stopped (done : List β) {rest : List β} {b : β} {e : ε} {t : σ} (split : bs = done ++ b :: rest)
      (h : stop b (done.foldl (fun s b => go b s) s) e t) :
      LoopEnds go stop bs s (.error e) t

theorem ends_forM {go : β → σ → σ} {stop : β → σ → ε → σ → Prop} {f : β → Effect ε σ Unit}
    {bs : List β} {s : σ}
    (h : ∀ b s, Ends (f b) s fun r t =>
      match r with
      | .ok () => t = go b s
      | .error e => stop b s e t) :
    Ends (bs.forM f) s (LoopEnds go stop bs s) := by
  induction bs generalizing s with
  | nil => exact .done
  | cons b bs ih =>
    apply ends_bind.2
    apply (h b s).mono
    intro r t ht
    cases r with
    | error e => exact .stopped [] rfl ht
    | ok _ =>
      subst ht
      apply ih.mono
      intro r t ht
      cases ht with
      | done => exact .done
      | stopped done split hstop => exact .stopped (b :: done) (by rw [split]; rfl) hstop

/-- A loop that fails has run through the elements before the one at which it failed. -/
theorem of_forM_eq_error {f : β → Effect ε σ Unit} {bs : List β} {s t : σ} {e : ε}
    (h : (bs.forM f).run.run s = (.error e, t)) :
    ∃ done b rest u, bs = done ++ b :: rest ∧ (done.forM f).run.run s = (.ok (), u) ∧
      (f b).run.run u = (.error e, t) := by
  induction bs generalizing s with
  | nil => cases h
  | cons b bs ih =>
    change (f b >>= fun _ => bs.forM f).run.run s = _ at h
    rw [run_bind] at h
    rcases hb : (f b).run.run s with ⟨_ | _, u⟩ <;> rw [hb] at h
    case error =>
      cases h
      exact ⟨[], b, bs, s, rfl, rfl, hb⟩
    case ok =>
      obtain ⟨done, c, rest, v, split, before, failed⟩ := ih h
      refine ⟨b :: done, c, rest, v, by rw [split]; rfl, ?_, failed⟩
      change (f b >>= fun _ => done.forM f).run.run s = _
      rw [run_bind, hb]
      exact before

end Effect

end TunnelKeeper
