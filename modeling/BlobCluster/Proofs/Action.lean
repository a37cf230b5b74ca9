import BlobCluster.BlobId

/-!
# What actions leave

Nodes work by actions: they may fail, and they go on with a state whether they fail or not.
`Leaves` says of an action and a state that its answer and the state after it satisfy a property.
The rules below take an action apart along its `do` block, so that what an action leaves is proved
from what its parts leave.
-/

namespace BlobCluster

variable {σ α β : Type} {s : σ}

theorem bind_of_ok {action : ExceptT Failure (StateM σ) α} {f : α → ExceptT Failure (StateM σ) β}
    {s t : σ} {a : α} (answered : action s = (.ok a, t)) : (action >>= f) s = f a t := by
  show ExceptT.bindCont f (action s).1 (action s).2 = _
  rw [answered]
  rfl

theorem bind_of_error {action : ExceptT Failure (StateM σ) α}
    {f : α → ExceptT Failure (StateM σ) β} {s t : σ} {e : Failure}
    (failed : action s = (.error e, t)) : (action >>= f) s = (.error e, t) := by
  show ExceptT.bindCont f (action s).1 (action s).2 = _
  rw [failed]
  rfl

theorem bind_eq_ok_iff {action : ExceptT Failure (StateM σ) α}
    {f : α → ExceptT Failure (StateM σ) β} {s t : σ} {b : β} :
    (action >>= f) s = (.ok b, t)
      ↔ ∃ a between, action s = (.ok a, between) ∧ f a between = (.ok b, t) := by
  constructor
  · intro answered
    rcases first : action s with ⟨e | a, between⟩
    · rw [bind_of_error first] at answered
      cases answered
    · exact ⟨a, between, rfl, (bind_of_ok first).symm.trans answered⟩
  · rintro ⟨a, between, first, second⟩
    exact (bind_of_ok first).trans second

theorem bind_eq_error_iff {action : ExceptT Failure (StateM σ) α}
    {f : α → ExceptT Failure (StateM σ) β} {s t : σ} {e : Failure} :
    (action >>= f) s = (.error e, t)
      ↔ action s = (.error e, t)
        ∨ ∃ a between, action s = (.ok a, between) ∧ f a between = (.error e, t) := by
  constructor
  · intro failed
    rcases first : action s with ⟨e' | a, between⟩
    · rw [bind_of_error first] at failed
      cases failed
      exact .inl rfl
    · exact .inr ⟨a, between, rfl, (bind_of_ok first).symm.trans failed⟩
  · rintro (failed | ⟨a, between, first, second⟩)
    · exact bind_of_error failed
    · exact (bind_of_ok first).trans second

/-- The answer of an action at a state and the state after it satisfy `post`.  Failures are answers
here: what a failing call has done to the files and the ledgers matters as much as what a successful
one has. -/
def Leaves (action : ExceptT Failure (StateM σ) α) (s : σ)
    (post : Except Failure α → σ → Prop) : Prop :=
  post (action s).1 (action s).2

/-- The same for an action that cannot fail. -/
def LeavesState (action : StateM σ α) (s : σ) (post : α → σ → Prop) : Prop :=
  post (action s).1 (action s).2

/-- What has to hold when an action goes on with the answer of another.  A failure ends the action,
so it has to be among the outcomes of the whole. -/
def Followed (f : α → ExceptT Failure (StateM σ) β) (post : Except Failure β → σ → Prop) :
    Except Failure α → σ → Prop
  | .ok a, s => Leaves (f a) s post
  | .error e, s => post (.error e) s

@[simp] theorem followed_ok (f : α → ExceptT Failure (StateM σ) β)
    (post : Except Failure β → σ → Prop) (a : α) :
    Followed f post (.ok a) s = Leaves (f a) s post := rfl

@[simp] theorem followed_mapError_ok (f : α → ExceptT Failure (StateM σ) β)
    (post : Except Failure β → σ → Prop) (report : Failure → Failure) (a : α) :
    Followed f post ((Except.ok a : Except Failure α).mapError report) s = Leaves (f a) s post :=
  rfl

/-- An answer is not reported as a failure, nor a failure as an answer. -/
theorem ok_of_mapError {r : Except Failure α} {report : Failure → Failure} {a : α}
    (answered : r.mapError report = .ok a) : r = .ok a := by
  cases r with
  | error e => cases answered
  | ok b => exact answered

theorem LeavesState.mono {action : StateM σ α} {post post' : α → σ → Prop}
    (h : LeavesState action s post) (weaker : ∀ a t, post a t → post' a t) :
    LeavesState action s post' :=
  weaker _ _ h

theorem LeavesState.bind {action : StateM σ α} {f : α → StateM σ β} {post : β → σ → Prop}
    (h : LeavesState action s fun a t => LeavesState (f a) t post) :
    LeavesState (action >>= f) s post := h

theorem LeavesState.get_bind {f : σ → StateM σ β} {post : β → σ → Prop}
    (h : LeavesState (f s) s post) : LeavesState (get >>= f) s post := h

namespace Leaves

variable {post : Except Failure β → σ → Prop}

theorem mono {action : ExceptT Failure (StateM σ) α} {post post' : Except Failure α → σ → Prop}
    (h : Leaves action s post) (weaker : ∀ r t, post r t → post' r t) : Leaves action s post' :=
  weaker _ _ h

theorem bind {action : ExceptT Failure (StateM σ) α} {f : α → ExceptT Failure (StateM σ) β}
    (h : Leaves action s (Followed f post)) : Leaves (action >>= f) s post := by
  unfold Leaves at h ⊢
  show post (ExceptT.bindCont f (action s).1 (action s).2).1
    (ExceptT.bindCont f (action s).1 (action s).2).2
  revert h
  generalize action s = outcome
  intro h
  obtain ⟨_ | _, t⟩ := outcome
  · exact h
  · exact h

theorem pure {a : β} (h : post (.ok a) s) :
    Leaves (Pure.pure a : ExceptT Failure (StateM σ) β) s post := h

theorem get_bind {f : σ → ExceptT Failure (StateM σ) β} (h : Leaves (f s) s post) :
    Leaves ((get : ExceptT Failure (StateM σ) σ) >>= f) s post := h

theorem lift_bind {action : StateM σ α} {f : α → ExceptT Failure (StateM σ) β}
    (h : LeavesState action s fun a t => Leaves (f a) t post) :
    Leaves ((liftM action : ExceptT Failure (StateM σ) α) >>= f) s post := h

theorem except_bind {outcome : Except Failure α} {f : α → ExceptT Failure (StateM σ) β}
    (failed : ∀ e, outcome = .error e → post (.error e) s)
    (passed : ∀ a, outcome = .ok a → Leaves (f a) s post) :
    Leaves ((liftM outcome : ExceptT Failure (StateM σ) α) >>= f) s post := by
  cases outcome with
  | error e => exact failed e rfl
  | ok a => exact passed a rfl

theorem validate_bind {blob : String} {f : Unit → ExceptT Failure (StateM σ) β}
    (valid : BlobId.Valid blob) (h : Leaves (f ()) s post) :
    Leaves ((liftM (BlobId.validate blob) : ExceptT Failure (StateM σ) Unit) >>= f) s post := by
  rw [BlobId.validate_eq_ok_iff.2 valid]
  exact h

theorem lift {action : StateM σ β} (h : LeavesState action s fun a t => post (.ok a) t) :
    Leaves (liftM action : ExceptT Failure (StateM σ) β) s post := h

/-- The outcome of an action may be looked at. -/
theorem run {action : ExceptT Failure (StateM σ) α} {post : Except Failure α → σ → Prop}
    (h : Leaves action s post) : LeavesState action.run s post := h

end Leaves

end BlobCluster
