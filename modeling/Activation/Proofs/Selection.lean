import Activation.OverloadSet
import Mathlib

/-!
# Which overload the arguments select

Two things decide which overload a call runs: which argument lists an overload accepts, and where
it stands among the others.

Acceptance is said here by the shapes of the parameters alone: null goes to nullable and dynamic
parameters, a value to a parameter of its type and to dynamic ones, and there is one argument for
each parameter (`Parameter.admits`, `acceptedBy`).  An overload made from a declared constructor
accepts exactly those lists (`Overload.accepts_ofConstructor`), so that its three lists together are
as good as the parameters.

Ranking moves overloads past each other only if their arities differ.  So a search for overloads
that all have one arity does not see it (`OverloadSet.filter_ranked`, `OverloadSet.find?_ranked`),
and a search for overloads that accept given arguments is of that kind.

Ranking puts overloads without parameters first.  So the overload that activation without arguments
goes through is the one that the empty list selects (`OverloadSet.default?_ofRegistry`).
-/

namespace Activation

/-! ## Acceptance -/

/-- Whether a parameter accepts an argument. -/
def Parameter.admits (p : Parameter) : Argument → Bool
  | .null => p.shape == .nullable || p.shape == .dynamic
  | .value v => p.shape == .dynamic || v.tag.is p.type

/-- Whether there is one argument for each parameter, and each parameter accepts its own. -/
def acceptedBy (parameters : List Parameter) (args : List Argument) : Bool :=
  args.length == parameters.length && (parameters.zip args).all fun (p, a) => p.admits a

lemma Shape.isNullable_eq (s : Shape) : s.isNullable = (s == .nullable || s == .dynamic) := by
  cases s <;> rfl

/-- Acceptance, position by position. -/
lemma acceptedBy_iff {parameters : List Parameter} {args : List Argument} :
    acceptedBy parameters args = true ↔
      args.length = parameters.length ∧
        ∀ i (hp : i < parameters.length) (ha : i < args.length),
          parameters[i].admits args[i] = true := by
  simp only [acceptedBy, Bool.and_eq_true, beq_iff_eq, List.all_eq_true]
  refine and_congr_right fun length => ?_
  constructor
  · intro all i hp ha
    have bound : i < (parameters.zip args).length := by
      rw [List.length_zip]
      omega
    have member := List.getElem_mem bound
    rw [List.getElem_zip] at member
    exact all _ member
  · intro each pair member
    obtain ⟨i, bound, rfl⟩ := List.getElem_of_mem member
    rw [List.length_zip] at bound
    rw [List.getElem_zip]
    exact each i (by omega) (by omega)

lemma forall₂_of_acceptedBy {parameters : List Parameter} {args : List Argument}
    (accepted : acceptedBy parameters args = true) :
    List.Forall₂ (fun p a => Parameter.admits p a = true) parameters args := by
  obtain ⟨length, each⟩ := acceptedBy_iff.1 accepted
  exact List.forall₂_iff_get.2 ⟨length.symm, each⟩

namespace Overload

lemma ofConstructor?_eq_some_iff {c : Constructor} {o : Overload} :
    ofConstructor? c = some o ↔ c.isUnsupported = false ∧ o = ofConstructor c := by
  unfold ofConstructor?
  cases c.isUnsupported <;> simp [eq_comm]

lemma arity_ofConstructor (c : Constructor) : (ofConstructor c).arity = c.parameters.length :=
  List.length_map ..

/-- At each position the three lists say what the shape of the parameter says. -/
lemma admits_ofConstructor {c : Constructor} {i : ℕ} (typed : i < (ofConstructor c).types.length)
    (declared : i < c.parameters.length) (a : Argument) :
    (ofConstructor c).admits i typed a = c.parameters[i].admits a := by
  cases a with
  | null => simp [admits, Argument.tag?, Parameter.admits, ofConstructor, Shape.isNullable_eq]
  | value v => simp [admits, Argument.tag?, Parameter.admits, ofConstructor]

/-- The overload of a constructor accepts what the constructor's parameters accept. -/
lemma accepts_ofConstructor (c : Constructor) (args : List Argument) :
    (ofConstructor c).accepts args = acceptedBy c.parameters args := by
  have arity := arity_ofConstructor c
  rw [Bool.eq_iff_iff, accepts_iff, acceptedBy_iff, arity]
  refine and_congr_right fun _ => ?_
  constructor
  · intro each i declared given
    rw [← admits_ofConstructor (declared.trans_eq arity.symm) declared]
    exact each i _ given
  · intro each i typed given
    rw [admits_ofConstructor typed (typed.trans_eq arity)]
    exact each i _ given

/-- An overload without parameters accepts the empty list only. -/
lemma accepts_synthetic (owner : TypeTag) (name : String)
    (produce : Unit → Outcome (Option Instance)) (args : List Argument) :
    (synthetic owner name produce).accepts args = args.isEmpty := by
  rw [Bool.eq_iff_iff, accepts_iff, List.isEmpty_iff]
  constructor
  · rintro ⟨length, -⟩
    exact List.length_eq_zero_iff.1 length
  · rintro rfl
    exact ⟨rfl, fun i typed => absurd typed (Nat.not_lt_zero i)⟩

/-- The empty list is accepted by overloads without parameters only. -/
lemma accepts_nil (o : Overload) : o.accepts [] = (o.arity == 0) := by
  rw [Bool.eq_iff_iff, accepts_iff, beq_iff_eq]
  constructor
  · rintro ⟨length, -⟩
    exact length.symm
  · intro zero
    exact ⟨zero.symm, fun i _ given => absurd given (Nat.not_lt_zero i)⟩

end Overload

/-! ## Ranking -/

namespace OverloadSet

/-- Overloads of one arity keep their order, whatever else is ranked with them. -/
lemma filter_ranked {p : Overload → Bool} {n : ℕ} (fixed : ∀ o, p o = true → o.arity = n)
    (overloads : List Overload) : (ranked overloads).filter p = overloads.filter p := by
  have kept : (overloads.filter p).Sublist (ranked overloads) := by
    refine List.sublist_mergeSort ?_ ?_ ?_ List.filter_sublist
    · intro a b c
      simp only [decide_eq_true_eq]
      exact Nat.le_trans
    · intro a b
      simp only [Bool.or_eq_true, decide_eq_true_eq]
      exact Nat.le_total _ _
    · refine List.pairwise_of_forall_mem_list fun a ha b hb => ?_
      have arity_a := fixed a (List.mem_filter.1 ha).2
      have arity_b := fixed b (List.mem_filter.1 hb).2
      simp [arity_a, arity_b]
  have included : (overloads.filter p).Sublist ((ranked overloads).filter p) := by
    simpa using kept.filter p
  have perm : ((ranked overloads).filter p).Perm (overloads.filter p) :=
    (List.mergeSort_perm _ _).filter p
  exact (included.eq_of_length perm.length_eq.symm).symm

/-- Ranking does not change which overload of an arity is found first. -/
lemma find?_ranked {p : Overload → Bool} {n : ℕ} (fixed : ∀ o, p o = true → o.arity = n)
    (overloads : List Overload) : (ranked overloads).find? p = overloads.find? p := by
  rw [← List.head?_filter, filter_ranked fixed, List.head?_filter]

/-- The arguments select the first of the unranked overloads that accepts them. -/
lemma select?_ofRegistry (r : Registry) (options : Options) (t : TypeTag) (args : List Argument) :
    (ofRegistry r options t).select? args = (r.candidates options t).find? (·.accepts args) :=
  find?_ranked (fun _ accepted => Overload.arity_of_accepts accepted) _

/-- What arguments give depends on what they select. -/
lemma createWith_congr_select? {s s' : OverloadSet} {args : List Argument}
    (same : s'.select? args = s.select? args) : s'.createWith args = s.createWith args := by
  rw [createWith, createWith, same]

/-! ## Activation without arguments -/

lemma pairwise_ranked (overloads : List Overload) :
    (ranked overloads).Pairwise fun a b => a.arity ≤ b.arity := by
  have sorted : (ranked overloads).Pairwise fun a b => decide (a.arity ≤ b.arity) = true := by
    refine List.pairwise_mergeSort ?_ ?_ overloads
    · intro a b c
      simpa using Nat.le_trans
    · intro a b
      simpa using Nat.le_total _ _
  simpa using sorted

/-- Ranked overloads hold one without parameters only if the first is one. -/
lemma default?_eq_find? {s : OverloadSet}
    (sorted : s.overloads.Pairwise fun a b => a.arity ≤ b.arity) :
    s.default? = s.overloads.find? (·.arity == 0) := by
  rw [s.default_eq]
  cases h : s.overloads with
  | nil => rfl
  | cons first rest =>
    rw [h] at sorted
    by_cases zero : first.arity = 0
    · simp [zero]
    · have positive : ∀ o ∈ rest, ¬ o.arity = 0 := by
        intro o member
        have above := List.rel_of_pairwise_cons sorted member
        omega
      have none : rest.find? (·.arity == 0) = none := by
        simpa using positive
      simp [zero, none]

/-- The default overload is the one that the empty list selects. -/
lemma default?_ofRegistry (r : Registry) (options : Options) (t : TypeTag) :
    (ofRegistry r options t).default? = (ofRegistry r options t).select? [] := by
  rw [default?_eq_find? (pairwise_ranked _), select?]
  congr 1
  funext o
  exact (Overload.accepts_nil o).symm

/-- Activation without arguments is activation from the empty list. -/
lemma createDefault_ofRegistry (r : Registry) (options : Options) (t : TypeTag) :
    (ofRegistry r options t).createDefault = (ofRegistry r options t).createWith [] := by
  unfold createDefault createWith
  rw [default?_ofRegistry]
  cases selected : (ofRegistry r options t).select? [] with
  | none => rfl
  | some o =>
    have accepted : o.accepts [] = true := by simpa using List.find?_some selected
    exact (if_pos accepted).symm

end OverloadSet

end Activation
