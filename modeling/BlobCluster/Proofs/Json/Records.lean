import BlobCluster.Proofs.Json.Values

/-!
# Written records are read back

A record is written with its fields in order, and `asRecord_record` says that its members are taken
as they were written, if each passes the test of its field.
-/

namespace BlobCluster.Json

variable {α : Type}

/-! ## Fields in order -/

/-- Members for the fields of a record in order, each with a value that passes the test.  The order
is that in which the fields are written; a reader accepts any. -/
inductive Fits : List Field → Members → Prop
  | nil : Fits [] []
  | cons {f : Field} {value : Json} {fields : List Field} {members : Members}
      (passes : f.test value = .ok ()) (rest : Fits fields members) :
      Fits (f :: fields) ((f.name, value) :: members)

theorem field_passes {name : String} {reading : Reading α} {value : Json} {a : α}
    (read : reading value = .ok a) : (field name reading).test value = .ok () := by
  rw [field]
  simp only [read]
  rfl

theorem optionalField_passes {name : String} {reading : Reading α} {value : Json} {a : α}
    (read : reading value = .ok a) : (optionalField name reading).test value = .ok () := by
  rw [optionalField]
  simp only [read]
  rfl

theorem Fits.names {fields : List Field} {members : Members} (fits : Fits fields members) :
    members.map (·.1) = fields.map (·.name) := by
  induction fits with
  | nil => rfl
  | cons _ _ ih => rw [List.map_cons, List.map_cons, ih]

theorem find?_name {fields : List Field} (distinct : (fields.map (·.name)).Nodup) {f : Field}
    (mem : f ∈ fields) : fields.find? (·.name == f.name) = some f := by
  induction fields with
  | nil => cases mem
  | cons first fields ih =>
    obtain ⟨apart, others⟩ := List.nodup_cons.1 distinct
    rcases List.mem_cons.1 mem with rfl | mem
    · exact List.find?_cons_of_pos (beq_self_eq_true _)
    · rw [List.find?_cons_of_neg, ih others mem]
      intro same
      exact apart (List.mem_map.2 ⟨f, mem, (beq_iff_eq.1 same).symm⟩)

/-- The members are taken one by one, with those before them kept.  `fresh` keeps the names distinct
along the way, as a name that comes twice is an error. -/
theorem takeMembers_fits {all fields : List Field} {members : Members}
    (fits : Fits fields members) (known : ∀ f ∈ fields, all.find? (·.name == f.name) = some f)
    {taken : Members} (fresh : (taken.map (·.1) ++ members.map (·.1)).Nodup) :
    takeMembers all taken (named members) = .ok (taken.reverse ++ members) := by
  induction fits generalizing taken with
  | nil => rw [List.append_nil]; rfl
  | @cons f value fields members passes rest ih =>
    have unseen : taken.any (·.1 == f.name) = false := by
      rw [List.any_eq_false]
      intro m mem same
      refine (List.nodup_append.1 fresh).2.2 f.name ?_ f.name List.mem_cons_self rfl
      exact beq_iff_eq.1 same ▸ List.mem_map_of_mem mem
    have next : ((((f.name, value) :: taken).map (·.1)) ++ members.map (·.1)).Nodup := by
      refine (List.Perm.nodup_iff ?_).1 fresh
      exact List.perm_middle
    have later := ih (fun g mem => known g (List.mem_cons_of_mem _ mem)) next
    rw [named, List.map_cons, takeMembers, known f List.mem_cons_self]
    simp only [unseen, Bool.false_eq_true, if_false, passes]
    show takeMembers all ((f.name, value) :: taken) (named members) = _
    rw [later, List.reverse_cons, List.append_assoc]
    rfl

/-- A record that is written with its fields in order is taken as it was written.  It holds for
every list of fields with distinct names, so each record form is one case of it. -/
theorem asRecord_record {fields : List Field} {members : Members}
    (distinct : (fields.map (·.name)).Nodup) (fits : Fits fields members) :
    asRecord fields (record members) = .ok members := by
  have fresh : (([] : Members).map (·.1) ++ members.map (·.1)).Nodup := by
    rw [fits.names]
    exact distinct
  have taken := takeMembers_fits fits (fun f mem => find?_name distinct mem) fresh
  have complete : noneMissing fields members = true := by
    rw [noneMissing, List.all_eq_true]
    intro f mem
    have there : f.name ∈ members.map (·.1) := fits.names ▸ List.mem_map_of_mem mem
    obtain ⟨m, within, same⟩ := List.mem_map.1 there
    rw [Bool.or_eq_true]
    exact .inr (List.any_eq_true.2 ⟨m, within, beq_iff_eq.2 same⟩)
  show (do
    let taken ← takeMembers fields [] (named members)
    if !true then .error .malformed
    else if noneMissing fields taken then .ok taken
    else .error .mismatched) = _
  rw [taken]
  show (if noneMissing fields members then Except.ok members else .error Fault.mismatched) = _
  rw [if_pos complete]

theorem bind_ok {ε β : Type} {x : Except ε α} {a : α} (is : x = .ok a) (f : α → Except ε β) :
    x >>= f = f a := by
  rw [is]
  rfl

theorem get_ok {members : Members} {name : String} {value : Json} {reading : Reading α} {a : α}
    (found : members.lookup name = some value) (read : reading value = .ok a) :
    members.get name reading = .ok a := by
  rw [Members.get, found]
  exact read

theorem getD_ok {members : Members} {name : String} {value : Json} {reading : Reading α} {a : α}
    (found : members.lookup name = some value) (read : reading value = .ok a) (default : α) :
    members.getD name reading default = .ok a := by
  rw [Members.getD, found]
  exact read

/-! ## Scalars -/

theorem asText_text (s : String) : asText (text s) = .ok s := rfl

theorem asBool_bool (b : Bool) : asBool (.bool b) = .ok b := rfl

theorem asNatural_nat (n : UInt64) : asNatural (nat n.toNat) = .ok n :=
  congrArg Except.ok UInt64.ofNat_toNat

theorem asSigned_int (i : Int64) : asSigned (int i.toInt) = .ok i := by
  have low : -(Numeric.signedBound : Int) ≤ i.toInt := i.le_toInt
  have high : i.toInt < Numeric.signedBound := i.toInt_lt
  unfold int
  split
  · have value : -((i.toInt.natAbs : Nat) : Int) = i.toInt := by omega
    rw [asSigned, value, Int64.ofInt_toInt]
  · have value : ((i.toInt.natAbs : Nat) : Int) = i.toInt := by omega
    rw [asSigned, if_pos (by omega), value, Int64.ofInt_toInt]

theorem asTexts_texts (items : List String) : asTexts (texts items) = .ok items := by
  have each : (items.map text).mapM asText = .ok items := by
    induction items with
    | nil => rfl
    | cons s items ih =>
      rw [List.map_cons, List.mapM_cons, ih]
      rfl
  show (do let read ← (items.map text).mapM asText; if true then Except.ok read else _) = _
  rw [each]
  rfl

end BlobCluster.Json
