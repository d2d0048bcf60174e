import ClassCatalog.Proofs.TypeIndex.Order
import ClassCatalog.Proofs.TypeIndex.Passes

/-!
# Progress of the passes

Building goes on with a pass over the types that the last one left with a failure, unless there are
none or as many as before (`Pass.next?`).  So a run has no more passes than types, or a single one.
Before each pass, its types are exactly those that are not complete (`Pass.Resumes`): a pass
completes the types for which it finds everything, and it does not touch those that were complete.
Hence a type that is complete stays as it is, and every pass after which the run goes on completes
another one.
-/

namespace ClassCatalog

open DeclaredType TypeIndex

namespace Pass

/-- The index that a pass leaves. -/
def after (pass : Pass) : TypeIndex := pass.before.pass pass.types

/-- The types that a pass leaves with a failure. -/
def remaining (pass : Pass) : List DeclaredType := pass.before.unsettled pass.types

/-- The pass that follows, over the types left with a failure, if they are fewer than before. -/
def next? (pass : Pass) : Option Pass :=
  if pass.remaining = [] ∨ pass.remaining.length = pass.types.length then none
  else some ⟨pass.after, pass.remaining⟩

/-- A run of passes from a given one until none follows, with the index that the last one leaves. -/
inductive Run : Pass → List Pass → TypeIndex → Prop
  | stop {pass : Pass} (ends : pass.next? = none) : Run pass [pass] pass.after
  | step {pass next : Pass} {passes : List Pass} {result : TypeIndex}
      (goesOn : pass.next? = some next) (rest : Run next passes result) :
      Run pass (pass :: passes) result

variable {pass next start : Pass} {passes done rest : List Pass} {result : TypeIndex}

theorem remaining_sublist (pass : Pass) : pass.remaining.Sublist pass.types :=
  List.filter_sublist

theorem next?_eq_some (goesOn : pass.next? = some next) :
    next = ⟨pass.after, pass.remaining⟩ ∧ pass.remaining ≠ [] ∧
      pass.remaining.length < pass.types.length := by
  rw [next?] at goesOn
  split at goesOn
  · cases goesOn
  · rename_i go
    obtain ⟨left, fewer⟩ := not_or.1 go
    exact ⟨(Option.some.inj goesOn).symm, left,
      Nat.lt_of_le_of_ne pass.remaining_sublist.length_le fewer⟩

/-- The passes that settle some types are a run that ends with the settled index. -/
theorem run_passes (index : TypeIndex) (types : List DeclaredType) :
    Run ⟨index, types⟩ (index.passes types) (index.settle types) := by
  fun_induction settle index types with
  | case1 index types remaining stop =>
    rw [passes_of_stop stop]
    exact .stop (if_pos stop)
  | case2 index types remaining go ih =>
    rw [passes_of_go go]
    exact .step (if_neg go) ih

namespace Run

/-- The types of a pass get fewer each time, and only the first pass may have none. -/
theorem length_le (run : Run start passes result) : passes.length ≤ max 1 start.types.length := by
  induction run with
  | stop ends => exact Nat.le_max_left _ _
  | @step pass next passes result goesOn rest ih =>
    obtain ⟨rfl, left, fewer⟩ := next?_eq_some goesOn
    have nonempty := List.length_pos_iff.2 left
    simp only [List.length_cons] at ih ⊢
    omega

/-- What holds at the start and is kept from one pass to the next holds before every pass, and what
is left of the run is one from that pass on. -/
theorem reaches {motive : List Pass → Pass → Prop} (run : Run start passes result)
    (step : ∀ done pass next, motive done pass → pass.next? = some next →
      motive (done ++ [pass]) next)
    {past : List Pass} (first : motive past start) (split : passes = done ++ pass :: rest) :
    motive (past ++ done) pass ∧ Run pass (pass :: rest) result := by
  -- the passes made before the run are `past`, to which each step adds one
  induction run generalizing past done with
  | stop ends =>
    obtain ⟨rfl, same⟩ := (List.singleton_eq_append_iff.1 split).resolve_right (by simp)
    obtain ⟨rfl, rfl⟩ := List.cons.inj same
    exact ⟨by simpa using first, .stop ends⟩
  | step goesOn tail ih =>
    rcases List.cons_eq_append_iff.1 split with ⟨rfl, same⟩ | ⟨done', rfl, later⟩
    · obtain ⟨rfl, rfl⟩ := List.cons.inj same
      exact ⟨by simpa using first, .step goesOn tail⟩
    · simpa using ih (step _ _ _ first goesOn) later

theorem exists_next (run : Run pass (pass :: rest) result) (more : rest ≠ []) :
    ∃ next, pass.next? = some next := by
  cases run with
  | stop ends => exact absurd rfl more
  | step goesOn tail => exact ⟨_, goesOn⟩

end Run

end Pass

/-! ## Complete types -/

/-- In the index that some passes leave, a type is complete: its supertypes were looked up by one of
them, and all that are stored are resolved. -/
structure TypeIndex.Completes (index : TypeIndex) (done : List Pass) (type : DeclaredType) :
    Prop where
  lookedUp : ∃ pass ∈ done, type ∈ pass.types
  resolved : ∃ entry, index.info? type.name = some entry ∧
    ∀ stored ∈ entry.supertypes, ∃ super, stored = .ok super

/-- A pass goes on where others over some types stopped: it takes those that are not complete. -/
structure Pass.Resumes (pass : Pass) (types : List DeclaredType) (done : List Pass) : Prop where
  sublist : pass.types.Sublist types
  known : ∀ type ∈ pass.types, pass.before.contains type.name = true
  completes_iff : ∀ type ∈ types, pass.before.Completes done type ↔ type ∉ pass.types

namespace Pass

variable {pass next : Pass} {done : List Pass} {types : List DeclaredType} {type : DeclaredType}

theorem not_mem_remaining_iff (h : type ∈ pass.types) :
    type ∉ pass.remaining ↔
      ∀ stored ∈ pass.before.directSupertypes type, ∃ super, stored = .ok super := by
  have settled : type ∉ pass.remaining ↔ ¬ ∃ e, .error e ∈ pass.before.directSupertypes type := by
    rw [← isUnsettled_iff, remaining, unsettled, List.mem_filter, not_and]
    exact ⟨fun settled => settled h, fun settled _ => settled⟩
  rw [settled]
  constructor
  · rintro settled (e | super) listed
    · exact absurd ⟨e, listed⟩ settled
    · exact ⟨super, rfl⟩
  · rintro all ⟨e, listed⟩
    obtain ⟨super, resolved⟩ := all _ listed
    cases resolved

/-- The first pass takes all types, for none of them was looked up. -/
theorem resumes_nil {index : TypeIndex}
    (known : ∀ type ∈ types, index.contains type.name = true) :
    Resumes ⟨index, types⟩ types [] where
  sublist := .refl types
  known := known
  completes_iff type declared := by
    refine iff_of_false ?_ (not_not_intro declared)
    rintro ⟨⟨pass, made, -⟩, -⟩
    cases made

namespace Resumes

/-- A pass does not touch the types that it does not take. -/
theorem info?_after (resumes : pass.Resumes types done)
    (distinct : (types.map DeclaredType.name).Nodup) (declared : type ∈ types)
    (left : type ∉ pass.types) : pass.after.info? type.name = pass.before.info? type.name := by
  refine info?_pass_of_not_mem fun listed => ?_
  obtain ⟨other, taken, same⟩ := List.mem_map.1 listed
  obtain rfl := List.inj_on_of_nodup_map distinct (resumes.sublist.subset taken) declared same
  exact left taken

/-- After a pass, the types without a failure are complete. -/
theorem completes_after_iff (resumes : pass.Resumes types done)
    (distinct : (types.map DeclaredType.name).Nodup) (declared : type ∈ types) :
    pass.after.Completes (done ++ [pass]) type ↔ type ∉ pass.remaining := by
  by_cases taken : type ∈ pass.types
  · have known := resumes.known type taken
    rw [contains_eq_isSome] at known
    obtain ⟨entry, before⟩ := Option.isSome_iff_exists.1 known
    have stored : pass.after.info? type.name =
        some { entry with supertypes := pass.before.directSupertypes type } := by
      rw [after, info?_pass_of_mem (distinct.sublist (resumes.sublist.map _)) taken, before]
      rfl
    rw [not_mem_remaining_iff taken]
    constructor
    · rintro ⟨-, entry', found, resolved⟩
      obtain rfl := Option.some.inj (stored.symm.trans found)
      exact resolved
    · intro resolved
      exact ⟨⟨pass, by simp, taken⟩, _, stored, resolved⟩
  · -- such a type was complete before
    have settled : type ∉ pass.remaining := fun h => taken (pass.remaining_sublist.subset h)
    obtain ⟨⟨earlier, made, took⟩, resolved⟩ := (resumes.completes_iff type declared).2 taken
    refine iff_of_true ⟨⟨earlier, List.mem_append_left _ made, took⟩, ?_⟩ settled
    rwa [resumes.info?_after distinct declared taken]

/-- Complete types stay complete, with the same supertypes. -/
theorem completes_after (resumes : pass.Resumes types done)
    (distinct : (types.map DeclaredType.name).Nodup) (declared : type ∈ types)
    (completes : pass.before.Completes done type) :
    pass.after.Completes (done ++ [pass]) type ∧
      pass.after.info? type.name = pass.before.info? type.name := by
  have left := (resumes.completes_iff type declared).1 completes
  refine ⟨(resumes.completes_after_iff distinct declared).2 fun h => ?_,
    resumes.info?_after distinct declared left⟩
  exact left (pass.remaining_sublist.subset h)

/-- A pass that is followed by another one completes a type. -/
theorem exists_completed (resumes : pass.Resumes types done)
    (distinct : (types.map DeclaredType.name).Nodup) (goesOn : pass.next? = some next) :
    ∃ type ∈ types, pass.after.Completes (done ++ [pass]) type ∧
      ¬ pass.before.Completes done type := by
  obtain ⟨-, -, fewer⟩ := next?_eq_some goesOn
  obtain ⟨type, taken, settled⟩ := List.length_filter_lt_length_iff_exists.1 fewer
  have declared := resumes.sublist.subset taken
  refine ⟨type, declared, (resumes.completes_after_iff distinct declared).2 ?_, ?_⟩
  · exact fun h => settled (List.mem_filter.1 h).2
  · exact fun completes => (resumes.completes_iff type declared).1 completes taken

/-- The pass that follows takes the types that are not complete either. -/
theorem follow (resumes : pass.Resumes types done)
    (distinct : (types.map DeclaredType.name).Nodup) (goesOn : pass.next? = some next) :
    next.Resumes types (done ++ [pass]) := by
  obtain ⟨rfl, -, -⟩ := next?_eq_some goesOn
  refine ⟨pass.remaining_sublist.trans resumes.sublist, fun type h => ?_, fun type declared => ?_⟩
  · rw [after, contains_pass]
    exact resumes.known type (pass.remaining_sublist.subset h)
  · exact resumes.completes_after_iff distinct declared

end Resumes

end Pass

/-! ## Building -/

namespace TypeIndex

/-- Building an index of types with distinct names makes at most one pass more than there are types.
Every pass leaves the names of the index as they are.  The types that were complete before it are
complete after it with the same entries, and unless it is the last one it completes another type. -/
theorem build_progress {units : List SourceUnit} (known : List KnownType)
    (distinct : ((ofUnits units).map DeclaredType.name).Nodup) :
    Pass.Run ⟨seed (ofUnits units) known, ofUnits units⟩ (buildPasses units known)
        (build units known) ∧
      (buildPasses units known).length ≤ (ofUnits units).length + 1 ∧
      ∀ done pass rest, buildPasses units known = done ++ pass :: rest →
        pass.after.names = pass.before.names ∧
        (∀ type ∈ ofUnits units, pass.before.Completes done type →
          pass.after.Completes (done ++ [pass]) type ∧
            pass.after.info? type.name = pass.before.info? type.name) ∧
        (rest ≠ [] → ∃ type ∈ ofUnits units,
          pass.after.Completes (done ++ [pass]) type ∧ ¬ pass.before.Completes done type) := by
  have run := Pass.run_passes (seed (ofUnits units) known) (ofUnits units)
  refine ⟨run, ?_, fun done pass rest split => ?_⟩
  · have bound : (buildPasses units known).length ≤ max 1 (ofUnits units).length := run.length_le
    omega
  · have first : Pass.Resumes ⟨seed (ofUnits units) known, ofUnits units⟩ (ofUnits units) [] := by
      refine Pass.resumes_nil fun type declared => ?_
      rw [contains_eq_isSome, info?_seed_of_mem distinct declared]
      rfl
    obtain ⟨resumes, tail⟩ := run.reaches (motive := fun done pass => pass.Resumes _ done)
      (fun _ _ _ resumes goesOn => resumes.follow distinct goesOn) first split
    rw [List.nil_append] at resumes
    refine ⟨names_pass _ _, fun type declared => resumes.completes_after distinct declared,
      fun more => ?_⟩
    obtain ⟨next, goesOn⟩ := tail.exists_next more
    exact resumes.exists_completed distinct goesOn

/-! ## A class that takes two passes

The first pass finds everything but the member that the inner class extends, since nothing is stored
yet for the outer one, which inherits it. -/

def heir : DeclaredType where
  name := "Outer.E"
  kind := .plain
  supertypes := [⟨.extends, ⟨["X"]⟩⟩]
  scope := { enclosing := ["Outer"] }

def heirBase : DeclaredType where
  name := "Base"
  kind := .plain
  supertypes := []
  scope := {}

theorem ofUnits_heirs :
    ofUnits [baseUnit, heirUnit] =
      [ { name := "Base.X", kind := .plain, supertypes := [], scope := { enclosing := ["Base"] } },
        heirBase, heir,
        { name := "Outer"
          kind := .plain
          supertypes := [⟨.extends, ⟨["Base"]⟩⟩]
          scope := {} } ] := by
  cbv

theorem distinct_heirs : ((ofUnits [baseUnit, heirUnit]).map DeclaredType.name).Nodup := by
  rw [ofUnits_heirs]
  decide

/-- The first pass over the two units. -/
def heirsPass : Pass where
  before := seed (ofUnits [baseUnit, heirUnit]) []
  types := ofUnits [baseUnit, heirUnit]

theorem lookup_heir :
    (seed (ofUnits [baseUnit, heirUnit]) []).lookupReference ⟨["X"]⟩ heir.scope =
      .error (.unknownType "X") := by
  refine lookupReference_of_unknown ?_ (by decide) rfl rfl fun name h => ?_
  · rw [supertypes, info?_seed, ofUnits_heirs]
    rfl
  · rw [← contains_build, ← Bool.not_eq_true, contains_build_iff, ofUnits_heirs]
    revert name
    decide

theorem isUnsettled_heir : heirsPass.before.isUnsettled heir = true :=
  isUnsettled_of_clause (List.mem_singleton.2 rfl) lookup_heir

theorem heirsPass_goes_on :
    ¬ (heirsPass.remaining = [] ∨ heirsPass.remaining.length = heirsPass.types.length) := by
  intro stop
  have inner : heir ∈ heirsPass.types := by simp [heirsPass, ofUnits_heirs]
  have base : heirBase ∈ heirsPass.types := by simp [heirsPass, ofUnits_heirs]
  cases isUnsettled_of_stop stop inner isUnsettled_heir base

theorem buildPasses_heirs :
    ∃ rest, buildPasses [baseUnit, heirUnit] [] =
      heirsPass :: ⟨heirsPass.after, heirsPass.remaining⟩ :: rest := by
  change ∃ rest, heirsPass.before.passes heirsPass.types = _ :: _ :: rest
  rw [passes_of_go heirsPass_goes_on, passes]
  exact ⟨_, rfl⟩

/-- The first pass completes a type, and the second one leaves it as it is. -/
theorem heirs_progress :
    ((ofUnits [baseUnit, heirUnit]).map DeclaredType.name).Nodup ∧
    ∃ second rest, buildPasses [baseUnit, heirUnit] [] = heirsPass :: second :: rest ∧
      rest.length ≤ 3 ∧
      ∃ type ∈ ofUnits [baseUnit, heirUnit], heirsPass.after.Completes [heirsPass] type ∧
        second.after.Completes [heirsPass, second] type ∧
        second.after.info? type.name = heirsPass.after.info? type.name := by
  obtain ⟨rest, made⟩ := buildPasses_heirs
  obtain ⟨-, bound, progress⟩ := build_progress [] distinct_heirs
  obtain ⟨-, -, completed⟩ := progress [] heirsPass _ made
  obtain ⟨type, declared, complete, -⟩ := completed (List.cons_ne_nil _ _)
  obtain ⟨-, kept, -⟩ := progress [heirsPass] _ rest made
  refine ⟨distinct_heirs, _, rest, made, ?_, type, declared, complete, kept type declared complete⟩
  rw [made, ofUnits_heirs] at bound
  simp only [List.length_cons, List.length_nil] at bound
  omega

end TypeIndex

end ClassCatalog
