import Mathlib.Data.List.Induction
import MapStyling.Resolver.Run

/-!
# The protocol of requests

Which requests are answered from the pool, and what every request does to the state of a resolver.

The invariant of a run ties the stored snapshot to the run itself: it is the snapshot of the latest
computation that is not forgotten (`last_of_lastComputed`), and without one there is none
(`last_eq_empty_or_lastComputed`). So the answer to the next request can be read off the run
(`isHit_run_iff`), though the resolver looks at nothing but the snapshot.
-/

namespace MapStyling

/-! ## Snapshots -/

namespace Snapshot

theorem isSome_of_sameAttribute {v w : Option Value} (h : Value.sameAttribute v w = true) :
    v.isSome = w.isSome := by
  cases v <;> cases w <;> first | rfl | cases h

/-- The count runs to the end exactly when all attributes agree, and then it is the stored one. -/
theorem countMatching?_map_eq_some_iff (relevant : List String) (s t : Attributes) (n : Nat) :
    countMatching? (relevant.map t) (relevant.map s) = some n ↔
      (∀ name ∈ relevant, Value.sameAttribute (t name) (s name) = true) ∧
        n = countPresent (relevant.map s) := by
  induction relevant generalizing n with
  | nil =>
    simp only [List.map_nil, countMatching?, countPresent, List.countP_nil, Option.some.injEq,
      List.not_mem_nil, false_implies, implies_true, true_and]
    exact eq_comm
  | cons name relevant ih =>
    simp only [List.map_cons, countMatching?, List.forall_mem_cons]
    by_cases h : Value.sameAttribute (t name) (s name) = true
    · have hcount : countPresent (s name :: relevant.map s) =
          if (t name).isSome then countPresent (relevant.map s) + 1
          else countPresent (relevant.map s) := by
        simp only [isSome_of_sameAttribute h, countPresent, List.countP_cons]
        split <;> rfl
      simp only [h, if_true, true_and, Option.map_eq_some_iff, ih, hcount]
      constructor
      · rintro ⟨k, ⟨hall, rfl⟩, rfl⟩
        exact ⟨hall, rfl⟩
      · rintro ⟨hall, rfl⟩
        exact ⟨_, ⟨hall, rfl⟩, rfl⟩
    · simp [h]

/-- A request agrees with the snapshot of another exactly when their zoom levels are equal and every
attribute that matters is absent in both or equal in both. The separate count rejects nothing. -/
theorem agrees_ofRequest_iff (z zoom : Float) (relevant : List String) (s t : Attributes) :
    (ofRequest z relevant s).agrees zoom relevant t = true ↔
      (z == zoom) = true ∧ ∀ name ∈ relevant, Value.sameAttribute (t name) (s name) = true := by
  simp only [agrees, ofRequest, valuesOf, Option.any_some, List.length_map, beq_self_eq_true,
    Bool.and_true, Bool.and_eq_true, beq_iff_eq]
  rw [countMatching?_map_eq_some_iff]
  simp only [and_true]

theorem agrees_empty (zoom : Float) (relevant : List String) (t : Attributes) :
    empty.agrees zoom relevant t = false := rfl

end Snapshot

namespace Resolver

variable (resolver : Resolver)

/-! ## One request -/

/-- A request that is answered from the pool is counted, and nothing else changes. -/
theorem resolveAt_of_isHit {state : State} {feature : Feature} {zoom : Float}
    (h : resolver.isHit state feature zoom = true) (measure : Measurer) :
    resolver.resolveAt measure feature zoom state = { state with hits := state.hits + 1 } := by
  simp only [isHit] at h
  simp only [resolveAt, Snapshot.check, h, if_true]

/-- Any other request is computed, and its snapshot is stored. -/
theorem resolveAt_of_not_isHit {state : State} {feature : Feature} {zoom : Float}
    (h : resolver.isHit state feature zoom = false) (measure : Measurer) :
    resolver.resolveAt measure feature zoom state =
      resolver.recompute measure feature zoom
        { state with last := .ofRequest zoom resolver.sheet.relevant feature.view } := by
  simp only [isHit] at h
  simp only [resolveAt, Snapshot.check, h, Bool.false_eq_true, if_false]

/-- Nothing is answered from the pool before anything was computed. -/
theorem isHit_start (feature : Feature) (zoom : Float) :
    resolver.isHit .start feature zoom = false := rfl

/-! ## Runs -/

theorem run_concat (requests : List Request) (request : Request) :
    resolver.run (requests ++ [request]) = resolver.serve (resolver.run requests) request := by
  simp only [run, List.foldl_append, List.foldl_cons, List.foldl_nil]

variable {resolver}

/-- After one more resolved feature the latest computation is that feature if it was computed, and
the one before if it was answered from the pool. -/
theorem lastComputed_concat_resolve {requests : List Request} {m m' : Measurer} {f f' : Feature}
    {z z' : Float} :
    resolver.LastComputed (requests ++ [.resolve m' f' z']) m f z ↔
      (resolver.isHit (resolver.run requests) f' z' = false ∧ m' = m ∧ f' = f ∧ z' = z) ∨
        (resolver.isHit (resolver.run requests) f' z' = true ∧
          resolver.LastComputed requests m f z) := by
  constructor
  · rintro ⟨before, after, heq, hmiss, hkept, hhits⟩
    rcases List.eq_nil_or_concat after with rfl | ⟨after, request, rfl⟩
    · obtain ⟨rfl, hlast⟩ := List.append_inj' heq rfl
      cases hlast
      exact .inl ⟨hmiss, rfl, rfl, rfl⟩
    · rw [List.concat_eq_append] at heq hkept hhits
      rw [← List.cons_append, ← List.append_assoc] at heq
      obtain ⟨rfl, hlast⟩ := List.append_inj' heq rfl
      cases hlast
      refine .inr ⟨hhits after m' f' z' [] rfl, before, after, rfl, hmiss, ?_, ?_⟩
      · exact fun hmem => hkept (List.mem_append_left _ hmem)
      · intro during mm ff zz rest hafter
        exact hhits during mm ff zz (rest ++ [.resolve m' f' z']) (by rw [hafter]; simp)
  · rintro (⟨hmiss, rfl, rfl, rfl⟩ | ⟨hhit, before, after, rfl, hmiss, hkept, hhits⟩)
    · exact ⟨requests, [], rfl, hmiss, List.not_mem_nil, by simp⟩
    · refine ⟨before, after ++ [.resolve m' f' z'], by simp, hmiss, by simpa using hkept, ?_⟩
      intro during mm ff zz rest hafter
      rcases List.eq_nil_or_concat rest with rfl | ⟨rest, request, rfl⟩
      · obtain ⟨rfl, hlast⟩ := List.append_inj' hafter rfl
        cases hlast
        exact hhit
      · rw [List.concat_eq_append, ← List.cons_append, ← List.append_assoc] at hafter
        obtain ⟨rfl, -⟩ := List.append_inj' hafter rfl
        exact hhits during mm ff zz rest rfl

/-- After an invalidation there is no latest computation. -/
theorem not_lastComputed_concat_invalidate {requests : List Request} {m : Measurer} {f : Feature}
    {z : Float} : ¬resolver.LastComputed (requests ++ [.invalidate]) m f z := by
  rintro ⟨before, after, heq, -, hkept, -⟩
  rcases List.eq_nil_or_concat after with rfl | ⟨after, request, rfl⟩
  · obtain ⟨-, hlast⟩ := List.append_inj' heq rfl
    cases hlast
  · rw [List.concat_eq_append, ← List.cons_append, ← List.append_assoc] at heq
    obtain ⟨-, hlast⟩ := List.append_inj' heq rfl
    cases hlast
    exact hkept (by simp)

theorem not_lastComputed_nil {m : Measurer} {f : Feature} {z : Float} :
    ¬resolver.LastComputed [] m f z := by
  rintro ⟨before, after, heq, -⟩
  simp at heq

/-- A state holds the snapshot of the latest computation of its run. -/
theorem last_of_lastComputed {requests : List Request} {m : Measurer} {f : Feature} {z : Float}
    (h : resolver.LastComputed requests m f z) :
    (resolver.run requests).last = .ofRequest z resolver.sheet.relevant f.view := by
  induction requests using List.reverseRecOn with
  | nil => exact absurd h not_lastComputed_nil
  | append_singleton requests request ih =>
    rw [run_concat]
    cases request with
    | invalidate => exact absurd h not_lastComputed_concat_invalidate
    | resolve m' f' z' =>
      rcases lastComputed_concat_resolve.mp h with ⟨hmiss, rfl, rfl, rfl⟩ | ⟨hhit, hlast⟩
      · rw [serve, resolveAt_of_not_isHit _ hmiss]
        rfl
      · rw [serve, resolveAt_of_isHit _ hhit]
        exact ih hlast

/-- A state that holds a snapshot at all is that of a run with a latest computation. -/
theorem last_eq_empty_or_lastComputed (requests : List Request) :
    (resolver.run requests).last = .empty ∨ ∃ m f z, resolver.LastComputed requests m f z := by
  induction requests using List.reverseRecOn with
  | nil => exact .inl rfl
  | append_singleton requests request ih =>
    rw [run_concat]
    cases request with
    | invalidate => exact .inl rfl
    | resolve m' f' z' =>
      right
      cases hit : resolver.isHit (resolver.run requests) f' z' with
      | false => exact ⟨m', f', z', lastComputed_concat_resolve.mpr (.inl ⟨hit, rfl, rfl, rfl⟩)⟩
      | true =>
        rcases ih with hempty | ⟨m, f, z, hlast⟩
        · rw [isHit, hempty, Snapshot.agrees_empty] at hit
          cases hit
        · exact ⟨m, f, z, lastComputed_concat_resolve.mpr (.inr ⟨hit, hlast⟩)⟩

/-- A request is answered from the pool exactly when it agrees with the latest computation. -/
theorem isHit_run_iff (requests : List Request) (feature : Feature) (zoom : Float) :
    resolver.isHit (resolver.run requests) feature zoom = true ↔
      ∃ m f z, resolver.LastComputed requests m f z ∧ (z == zoom) = true ∧
        ∀ name ∈ resolver.sheet.relevant,
          Value.sameAttribute (feature.view name) (f.view name) = true := by
  constructor
  · intro hhit
    rcases last_eq_empty_or_lastComputed requests with hempty | ⟨m, f, z, hlast⟩
    · rw [isHit, hempty, Snapshot.agrees_empty] at hhit
      cases hhit
    · rw [isHit, last_of_lastComputed hlast, Snapshot.agrees_ofRequest_iff] at hhit
      exact ⟨m, f, z, hlast, hhit⟩
  · rintro ⟨m, f, z, hlast, hagree⟩
    rw [isHit, last_of_lastComputed hlast, Snapshot.agrees_ofRequest_iff]
    exact hagree

/-- An answer is that of some computation: of its own request, unless it comes from the pool. -/
theorem exists_lastComputed (resolver : Resolver) (requests : List Request) (measure : Measurer)
    (feature : Feature) (zoom : Float) :
    ∃ m f z, resolver.LastComputed (requests ++ [.resolve measure feature zoom]) m f z ∧
      (resolver.isHit (resolver.run requests) feature zoom = false → f = feature ∧ z = zoom) := by
  cases hit : resolver.isHit (resolver.run requests) feature zoom with
  | false =>
    exact ⟨measure, feature, zoom, lastComputed_concat_resolve.mpr (.inl ⟨hit, rfl, rfl, rfl⟩),
      fun _ => ⟨rfl, rfl⟩⟩
  | true =>
    obtain ⟨m, f, z, hlast, -⟩ := (isHit_run_iff requests feature zoom).mp hit
    exact ⟨m, f, z, lastComputed_concat_resolve.mpr (.inr ⟨hit, hlast⟩), fun miss => nomatch miss⟩

/-! ## Counts and answers -/

theorem revision_eq_misses (requests : List Request) :
    (resolver.run requests).revision = (resolver.run requests).misses := by
  induction requests using List.reverseRecOn with
  | nil => rfl
  | append_singleton requests request ih =>
    rw [run_concat]
    cases request with
    | invalidate => exact ih
    | resolve m f z =>
      cases hit : resolver.isHit (resolver.run requests) f z with
      | false =>
        rw [serve, resolveAt_of_not_isHit _ hit]
        exact congrArg (· + 1) ih
      | true =>
        rw [serve, resolveAt_of_isHit _ hit]
        exact ih

theorem hits_add_misses (requests : List Request) :
    (resolver.run requests).hits + (resolver.run requests).misses =
      requests.countP Request.isResolve := by
  induction requests using List.reverseRecOn with
  | nil => rfl
  | append_singleton requests request ih =>
    rw [run_concat, List.countP_append, ← ih]
    cases request with
    | invalidate => rfl
    | resolve m f z =>
      have hone : List.countP Request.isResolve [.resolve m f z] = 1 := rfl
      rw [hone]
      cases hit : resolver.isHit (resolver.run requests) f z with
      | false =>
        rw [serve, resolveAt_of_not_isHit _ hit]
        simp only [recompute, Nat.add_assoc]
      | true =>
        rw [serve, resolveAt_of_isHit _ hit]
        exact Nat.add_right_comm _ _ _

theorem answersFrom_concat (state : State) (requests : List Request) (request : Request) :
    resolver.answersFrom state (requests ++ [request]) =
      resolver.answersFrom state requests ++
        resolver.answersFrom (requests.foldl resolver.serve state) [request] := by
  induction requests generalizing state with
  | nil => rfl
  | cons first requests ih =>
    cases first with
    | invalidate => exact ih _
    | resolve m f z =>
      simp only [List.cons_append, answersFrom, ih]
      rfl

/-- The instructions of a state are those that were returned last. -/
theorem instructions_eq_getLast_answers (requests : List Request) :
    (resolver.run requests).instructions = (resolver.answers requests).getLast?.getD [] := by
  induction requests using List.reverseRecOn with
  | nil => rfl
  | append_singleton requests request ih =>
    rw [run_concat, answers, answersFrom_concat]
    cases request with
    | invalidate =>
      simp only [answersFrom, List.append_nil]
      exact ih
    | resolve m f z =>
      simp only [answersFrom, List.getLast?_append, List.getLast?_singleton, Option.some_or,
        Option.getD_some]
      rfl

/-! ## The protocol -/

/-- The protocol of a run and the next request, in four parts.
1. The request is answered from the pool exactly when some request of the run was computed with no
   invalidation behind it and, compared with the latest of these, the zoom level is equal and every
   attribute that matters is absent in both or equal in both.
2. An answer from the pool is counted, and leaves the instructions, the snapshot and the other
   counts as they are.
3. A computed answer is counted, and stores the zoom level, the values of the attributes that matter
   and how many of these there are.
4. In any case there have been as many revisions as computations, every request for instructions was
   answered in one of the two ways, and the instructions are those returned last. -/
theorem resolveAt_run_protocol (resolver : Resolver) (requests : List Request) (measure : Measurer)
    (feature : Feature) (zoom : Float) :
    let state := resolver.run requests
    let next := resolver.resolveAt measure feature zoom state
    (resolver.isHit state feature zoom = true ↔
      ∃ m f z, resolver.LastComputed requests m f z ∧ (z == zoom) = true ∧
        ∀ name ∈ resolver.sheet.relevant,
          Value.sameAttribute (feature.view name) (f.view name) = true) ∧
    (if resolver.isHit state feature zoom then
      next.hits = state.hits + 1 ∧ next.instructions = state.instructions ∧
        next.last = state.last ∧ next.revision = state.revision ∧ next.misses = state.misses
    else
      next.hits = state.hits ∧ next.revision = state.revision + 1 ∧
        next.misses = state.misses + 1 ∧ next.last.zoom = some zoom ∧
        next.last.values = resolver.sheet.relevant.map feature.view ∧
        next.last.used =
          resolver.sheet.relevant.countP fun name => (feature.view name).isSome) ∧
    state.revision = state.misses ∧
    state.hits + state.misses = requests.countP Request.isResolve ∧
    state.instructions = (resolver.answers requests).getLast?.getD [] := by
  intro state next
  refine ⟨isHit_run_iff requests feature zoom, ?_, revision_eq_misses requests,
    hits_add_misses requests, instructions_eq_getLast_answers requests⟩
  cases hit : resolver.isHit state feature zoom with
  | true =>
    have hnext : next = { state with hits := state.hits + 1 } := resolveAt_of_isHit _ hit measure
    rw [if_pos rfl, hnext]
    exact ⟨rfl, rfl, rfl, rfl, rfl⟩
  | false =>
    have hnext := resolveAt_of_not_isHit _ hit measure
    rw [if_neg Bool.false_ne_true, show next = _ from hnext]
    exact ⟨rfl, rfl, rfl, rfl, rfl, List.countP_map⟩

end Resolver

end MapStyling
