import BlobCluster.Proofs.Storage.Changes

/-!
# Trails

A path goes over places whatever is on a volume: `Path.trail` lists them, and `Path.goal` is the
last.  A walk that succeeds ends at the goal, and there are folders everywhere before it.

`Brings` says what an operation may put at places.  Nothing is asked of the volume for that, and
nothing is said about the contents.
-/

namespace BlobCluster

/-! ## The places that a path goes over -/

namespace Path

/-- The place that one part of a path leads to from a place. -/
def turn (here : Path) (part : String) : Path :=
  if part = "." then here else if part = ".." then here.dropLast else here ++ [part]

/-- The place that a path leads to from a place, if it leads anywhere. -/
def goalFrom (here path : Path) : Path := path.foldl turn here

/-- The places that a path goes over from a place, with both ends. -/
def trailFrom (here : Path) : Path → List Path
  | [] => [here]
  | part :: rest => here :: trailFrom (turn here part) rest

/-- The place that a path leads to from the top, if it leads anywhere. -/
def goal (path : Path) : Path := goalFrom [] path

/-- The places that a path goes over from the top, with both ends. -/
def trail (path : Path) : List Path := trailFrom [] path

variable {here place above : Path} {path : Path}

theorem start_mem_trailFrom (here path : Path) : here ∈ trailFrom here path := by
  cases path <;> simp [trailFrom]

theorem goalFrom_mem_trailFrom (here path : Path) : goalFrom here path ∈ trailFrom here path := by
  induction path generalizing here with
  | nil => simp [goalFrom, trailFrom]
  | cons part rest ih => exact List.mem_cons_of_mem _ (ih (turn here part))

/-- What is above the place after a turn is above the place before it, or is one of the two. -/
theorem prefix_of_prefix_turn {part : String} (h : above <+: turn here part) :
    above <+: here ∨ above = turn here part := by
  unfold turn at h ⊢
  split at h
  next dot => exact .inl h
  next noDot =>
    rw [if_neg noDot]
    split at h
    next dots => exact .inl (h.trans (List.dropLast_prefix here))
    next noDots =>
      rw [if_neg noDots]
      exact (List.prefix_concat_iff.1 h).symm

/-- A path goes over all that lies above a place of its trail, as far as it is not above its
start. -/
theorem mem_trailFrom_of_prefix (mem : place ∈ trailFrom here path) (h : above <+: place) :
    above <+: here ∨ above ∈ trailFrom here path := by
  induction path generalizing here with
  | nil =>
    rw [trailFrom, List.mem_singleton] at mem
    exact .inl (mem ▸ h)
  | cons part rest ih =>
    rcases List.mem_cons.1 mem with rfl | mem
    · exact .inl h
    · rcases ih mem with early | late
      · rcases prefix_of_prefix_turn early with early | rfl
        · exact .inl early
        · exact .inr (List.mem_cons_of_mem _ (start_mem_trailFrom _ rest))
      · exact .inr (List.mem_cons_of_mem _ late)

/-- From the top a path goes over all that lies above a place of its trail. -/
theorem mem_trail_of_prefix (mem : place ∈ trail path) (h : above <+: place) :
    above ∈ trail path := by
  rcases mem_trailFrom_of_prefix mem h with top | mem
  · rw [List.prefix_nil.1 top]
    exact start_mem_trailFrom [] path
  · exact mem

end Path

namespace Volume

variable {volume after last : Volume} {here place path : Path}

theorem step_eq_turn {part : String} (h : volume.step here part = .ok place) :
    place = here.turn part := (step_eq_ok h).2

/-- A walk that succeeds leads to the goal of the path, and before it there are folders. -/
theorem walk_eq_ok (h : volume.walk here path = .ok place) : place = Path.goalFrom here path
    ∧ ∀ other ∈ Path.trailFrom here path, other ≠ place → volume.at? other = some .folder := by
  induction path generalizing here with
  | nil =>
    cases h
    refine ⟨rfl, fun other mem differs => absurd ?_ differs⟩
    simpa [Path.trailFrom] using mem
  | cons part rest ih =>
    simp only [walk] at h
    cases stepped : volume.step here part with
    | error e =>
      rw [stepped] at h
      cases h
    | ok next =>
      rw [stepped] at h
      obtain ⟨folder, rfl⟩ := step_eq_ok stepped
      obtain ⟨goal, folders⟩ := ih h
      refine ⟨goal, fun other mem differs => ?_⟩
      rcases List.mem_cons.1 mem with rfl | mem
      · exact folder
      · exact folders other mem differs

theorem locate_eq_ok (h : volume.locate path = .ok place) : place = path.goal
    ∧ ∀ other ∈ path.trail, other ≠ place → volume.at? other = some .folder := by
  unfold locate at h
  split at h
  · cases h
  · exact walk_eq_ok h

/-- A part that leads on is not too long. -/
theorem name_of_step {part : String} (h : volume.step here part = .ok place) :
    part.utf8ByteSize ≤ longestName := by
  have folder := (step_eq_ok h).1
  simp only [step, folder, beq_iff_eq] at h
  by_cases dot : part = "."
  · rw [dot]
    decide
  · by_cases dots : part = ".."
    · rw [dots]
      decide
    · rw [if_neg dot, if_neg dots] at h
      by_contra long
      rw [if_pos (Nat.not_le.1 long)] at h
      cases h

theorem names_of_walk (h : volume.walk here path = .ok place) {part : String} (mem : part ∈ path) :
    part.utf8ByteSize ≤ longestName := by
  induction path generalizing here with
  | nil => cases mem
  | cons first rest ih =>
    simp only [walk] at h
    cases stepped : volume.step here first with
    | error e =>
      rw [stepped] at h
      cases h
    | ok next =>
      rw [stepped] at h
      rcases List.mem_cons.1 mem with rfl | mem
      · exact name_of_step stepped
      · exact ih h mem

/-! ## What an operation brings to places -/

/-- What is at a place afterwards was there before, or is new and allowed there. -/
def Brings (volume after : Volume) (new : Path → Node → Prop) : Prop :=
  ∀ place node, after.at? place = some node → volume.at? place = some node ∨ new place node

variable {new : Path → Node → Prop}

theorem Brings.refl (volume : Volume) : volume.Brings volume new := fun _ _ => .inl

theorem Brings.trans (h : volume.Brings after new) (h' : after.Brings last new) :
    volume.Brings last new := by
  intro place node there
  rcases h' place node there with there | allowed
  · exact h place node there
  · exact .inr allowed

theorem Brings.of_outcome {outcome : Except Refusal Volume}
    (brings : ∀ after, outcome = .ok after → volume.Brings after new) :
    volume.Brings (outcome.toOption.getD volume) new := by
  cases outcome with
  | error e => exact .refl volume
  | ok after => exact brings after rfl

theorem Brings.of_entries (same : after.entries = volume.entries) : volume.Brings after new := by
  intro place node there
  cases place with
  | nil => exact .inl there
  | cons part rest =>
    unfold at? at there ⊢
    rw [same] at there
    exact .inl there

theorem brings_keep (test : Entry → Bool) :
    volume.Brings { volume with entries := volume.entries.keep test } new := by
  intro place node there
  cases place with
  | nil => exact .inl there
  | cons part rest =>
    rw [at?_of_ne_nil (List.cons_ne_nil part rest)] at there ⊢
    rw [Table.find?_keep] at there
    obtain ⟨entry, found, rfl⟩ := Option.map_eq_some_iff.1 there
    rw [(Option.filter_eq_some_iff.1 found).1]
    exact .inl rfl

theorem brings_set {node : Node} (allowed : new place node) :
    volume.Brings (volume.set place node) new := by
  intro other is there
  cases other with
  | nil => exact .inl there
  | cons part rest =>
    rw [at?_of_ne_nil (List.cons_ne_nil part rest)] at there ⊢
    unfold set at there
    rw [Table.find?_put] at there
    split at there
    next same =>
      cases there
      rw [← Std.LawfulEqCmp.eq_of_compare same]
      exact .inr allowed
    next => exact .inl there

/-- A row that is found after some were put was found before, or is one of these. -/
theorem find?_foldl_put_eq_some {f : Entry → Entry} {moved : List Entry}
    {table : Table Entry.path} {row : Entry}
    (found : (moved.foldl (fun table e => table.put (f e)) table).find? place = some row) :
    table.find? place = some row ∨ ∃ e ∈ moved, f e = row := by
  induction moved generalizing table with
  | nil => exact .inl found
  | cons first rest ih =>
    rcases ih found with put | ⟨e, mem, same⟩
    · rw [Table.find?_put] at put
      split at put
      next => exact .inr ⟨first, List.mem_cons_self .., Option.some.inj put⟩
      next => exact .inl put
    · exact .inr ⟨e, List.mem_cons_of_mem _ mem, same⟩

/-- Everything that is moved comes to lie at or below the target. -/
theorem brings_move {source target : Path}
    (allowed : ∀ place node, target <+: place → new place node) :
    volume.Brings (volume.move source target) new := by
  intro place node there
  cases place with
  | nil => exact .inl there
  | cons part rest =>
    rw [at?_of_ne_nil (List.cons_ne_nil part rest)] at there ⊢
    obtain ⟨entry, found, rfl⟩ := Option.map_eq_some_iff.1 there
    unfold move at found
    rcases find?_foldl_put_eq_some found with kept | ⟨moved, -, same⟩
    · rw [Table.find?_keep] at kept
      rw [(Option.filter_eq_some_iff.1 kept).1]
      exact .inl rfl
    · have key := Table.find?_key found
      rw [← same] at key
      exact .inr (allowed _ _ ⟨_, key⟩)

theorem brings_write {bytes : Bytes} (written : volume.write path bytes = .ok after)
    (allowed : ∀ place, volume.locate path = .ok place → ∀ number, new place (.file number)) :
    volume.Brings after new := by
  unfold write at written
  split at written
  · cases written
  · rename_i place located
    split at written
    · cases written
    · cases written
      exact .of_entries rfl
    · cases written
      exact brings_set (allowed place located _)

theorem brings_append {bytes : Bytes} (appended : volume.append path bytes = .ok after) :
    volume.Brings after new := by
  unfold Volume.append at appended
  split at appended <;> cases appended
  exact .of_entries rfl

theorem brings_resize {length : Nat} (resized : volume.resize path length = .ok after) :
    volume.Brings after new := by
  unfold resize at resized
  split at resized <;> cases resized
  exact .of_entries rfl

theorem brings_makeFolder (made : volume.makeFolder path = .ok after)
    (allowed : ∀ place, volume.locate path = .ok place → new place .folder) :
    volume.Brings after new := by
  unfold makeFolder at made
  split at made
  · cases made
  · rename_i place located
    split at made <;> cases made
    exact brings_set (allowed place located)

theorem brings_makeAlong (volume : Volume) (here path : Path)
    (allowed : ∀ place ∈ Path.trailFrom here path, new place .folder) :
    volume.Brings (volume.makeAlong here path).2 new := by
  induction path generalizing volume here with
  | nil => exact .refl volume
  | cons part rest ih =>
    unfold makeAlong
    cases stepped : volume.step here part with
    | error e => exact .refl volume
    | ok place =>
      obtain rfl := step_eq_turn stepped
      have rest_ : ∀ place ∈ Path.trailFrom (here.turn part) rest, new place .folder :=
        fun place mem => allowed place (List.mem_cons_of_mem _ mem)
      rcases there : volume.at? (here.turn part) with _ | _ | number
      · simp only [there]
        exact (brings_set (rest_ _ (Path.start_mem_trailFrom _ rest))).trans (ih _ _ rest_)
      · simp only [there]
        exact ih _ _ rest_
      · simp only [there]
        exact .refl volume

theorem brings_makeFolders (allowed : ∀ place ∈ (makeable path).trail, new place .folder) :
    volume.Brings (volume.makeFolders path).2 new := by
  have along := brings_makeAlong volume [] (makeable path) allowed
  unfold makeFolders
  split
  · exact .refl volume
  · exact .refl volume
  · split
    next made =>
      rw [made] at along
      exact along
    next made =>
      rw [made] at along
      exact along
  · exact .refl volume

theorem brings_remove (removed : volume.remove path = .ok after) : volume.Brings after new := by
  unfold remove at removed
  split at removed
  · cases removed
  · split at removed <;> cases removed
    exact brings_keep _

theorem brings_removeFolder (removed : volume.removeFolder path = .ok after) :
    volume.Brings after new := by
  unfold removeFolder at removed
  split at removed
  · cases removed
  · split at removed
    · cases removed
    · cases removed
    · split at removed <;> cases removed
      exact brings_keep _

theorem brings_removeTree (removed : volume.removeTree path = .ok after) :
    volume.Brings after new := by
  unfold removeTree at removed
  split at removed
  · cases removed
  · split at removed <;> cases removed
    exact brings_keep _

theorem brings_renamePlace {source target : Path}
    (renamed : volume.renamePlace source target = .ok after)
    (allowed : ∀ place node, target <+: place → new place node) : volume.Brings after new := by
  have moved : volume.Brings (volume.move source target) new := brings_move allowed
  unfold renamePlace at renamed
  split at renamed
  · cases renamed
  · split at renamed
    · cases renamed
    split at renamed
    · cases renamed
    split at renamed
    · cases renamed
      exact .refl volume
    split at renamed
    · cases renamed
    · cases renamed
    · split at renamed <;> cases renamed
      exact moved
    · cases renamed
      exact moved

/-- What is renamed comes to lie where the new path leads to. -/
theorem brings_rename {source target : Path} (renamed : volume.rename source target = .ok after)
    (allowed : ∀ there, volume.locate target = .ok there → (volume.find source).toBool = true →
      ∀ place node, there <+: place → new place node) : volume.Brings after new := by
  unfold rename at renamed
  split at renamed
  · cases renamed
  · cases renamed
  · rename_i here there located located'
    refine brings_renamePlace renamed (allowed there located' ?_)
    cases present : volume.at? here with
    | none =>
      unfold renamePlace at renamed
      simp only [present] at renamed
      cases renamed
    | some node =>
      rw [find_eq_ok_iff.2 ⟨here, located, present⟩]
      rfl

end Volume

end BlobCluster
