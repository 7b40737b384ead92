import Mathlib
import MapStyling.Proofs.Resolver.Assembly
import MapStyling.Proofs.Sheet.Names
import MapStyling.Proofs.Value.Same
import MapStyling.Proofs.Wording

/-!
# Which attributes matter

A sheet lists the names of the attributes that matter. Two features of one kind of geometry that
agree on these are drawn by the same layers, and are drawn alike but for what icons and labels say
(`Resolver.instructionsOf_eq_iff`). What these say is listed as far as it is written in the style: a
template passed on from an attribute may name other attributes, and so may any template name the
attribute without a name. `Resolver.unlisted` has these names, and on features that agree on them
too everything is drawn alike (`Resolver.instructionsOf_eq`).

A request that is answered from the pool agrees with the latest computation on the names that
matter, but for the signs of zeros. So the same can be said of the answer and of what would be
computed.
-/

namespace MapStyling

/-- Two features are of one kind of geometry, and have the same attributes under some names. -/
structure Feature.AlikeOn (names : List String) (f g : Feature) : Prop where
  kind : f.geometry.kind = g.geometry.kind
  attributes : ∀ name ∈ names, name ≠ geometryAttribute → f.attributes name = g.attributes name

/-- Features that are alike read alike. -/
theorem Feature.AlikeOn.view {names : List String} {f g : Feature} (h : f.AlikeOn names g) :
    AgreeOn names f.view g.view := by
  intro name hname
  unfold Feature.view
  by_cases hgeometry : name = geometryAttribute
  · rw [if_pos hgeometry, if_pos hgeometry, h.kind]
  · rw [if_neg hgeometry, if_neg hgeometry]
    exact h.attributes name hname hgeometry

/-- Features that read alike are alike, if the kind of geometry is among what is read. -/
theorem Feature.alikeOn_of_view {names : List String} {f g : Feature}
    (hgeometry : geometryAttribute ∈ names) (h : AgreeOn names f.view g.view) :
    f.AlikeOn names g where
  kind := by
    have hname := h geometryAttribute hgeometry
    simp only [Feature.view, if_true, Option.some.injEq, Value.string.injEq] at hname
    cases hf : f.geometry.kind <;> cases hg : g.geometry.kind <;> simp_all [GeometryKind.name]
  attributes := by
    intro name hname hne
    have hsame := h name hname
    unfold Feature.view at hsame
    rwa [if_neg hne, if_neg hne] at hsame

/-! ## Which layers draw -/

namespace Sheet

theorem mem_of_mem_candidates {sheet : Sheet} {attributes : Attributes} {layer : CompiledLayer}
    (h : layer ∈ sheet.candidates attributes) : layer ∈ sheet.layers := by
  rcases List.mem_append.mp h with h | h
  · exact (List.mem_filter.mp h).1
  · exact (List.mem_filter.mp h).1

theorem candidates_congr (sheet : Sheet) {s t : Attributes}
    (h : s sourceLayerAttribute = t sourceLayerAttribute) :
    sheet.candidates s = sheet.candidates t := by
  simp only [candidates, h]

end Sheet

theorem CompiledLayer.applies_congr {layer : CompiledLayer} {names : List String} {s t : Attributes}
    (hlisted : layer.ListedIn names) (h : AgreeOn names s t) (zoom : Float) :
    layer.applies zoom s = layer.applies zoom t := by
  unfold applies
  cases hfilter : layer.filter with
  | none => rfl
  | some filter =>
    have hkeys : AgreeOn filter.keys s t := h.mono (hlisted.filter filter hfilter)
    rw [Option.all_some, Option.all_some, filter.holds_congr hkeys]

theorem CompiledLayer.agreesWith {layer : CompiledLayer} {names : List String} {s t : Attributes}
    (hlisted : layer.ListedIn names) (h : AgreeOn names s t) (zoom : Float) :
    PaintView.AgreesWith ⟨layer.paint, zoom, s⟩ ⟨layer.paint, zoom, t⟩ :=
  PaintView.agreesWith_of_agree layer.paint zoom fun property function hfunction name hname =>
    h name (hlisted.functions property function hfunction name hname)

/-- A style names all that its icons and labels read: no function passes an attribute on to them,
and no text written for them has the empty name. -/
def Sheet.NamesAll (sheet : Sheet) : Prop :=
  ∀ layer ∈ sheet.layers, ∀ property function, property = .iconImage ∨ property = .textField →
    layer.paint.get? property = some function →
      (∀ passed default, function ≠ .attribute passed .identity default) ∧
        ∀ text, .string text ∈ function.outputs → "" ∉ Template.keys text

/-! ## What is drawn -/

/-- What a layer says it says at its depth. -/
theorem CompiledLayer.depth_of_mem_wordings {layer : CompiledLayer} {materials : Materials}
    {kind : GeometryKind} {zoom : Float} {attributes : Attributes}
    {said : Nat × InstructionKind × String}
    (h : said ∈ wordings (layer.draw materials kind zoom attributes)) : said.1 = layer.index := by
  obtain ⟨i, hi, hwording⟩ := List.mem_filterMap.mp h
  obtain ⟨sketch, -, hdraw⟩ := List.mem_filterMap.mp hi
  rw [i.depth_of_wording hwording, (Sketch.kind_depth_draw? hdraw).2]

namespace Resolver

variable {document : Document} {options : ResolverOptions} {resolver : Resolver}
  {measure : Measurer} {f g : Feature} {zoom : Float}

theorem mem_of_mem_layersFor (built : build document options = .ok resolver)
    {attributes : Attributes} {layer : CompiledLayer}
    (h : layer ∈ resolver.layersFor zoom attributes) : layer ∈ resolver.sheet.layers := by
  rw [layersFor_of_build built] at h
  exact Sheet.mem_of_mem_candidates (List.mem_filter.mp h).1

theorem listedIn_of_build (built : build document options = .ok resolver) {layer : CompiledLayer}
    (h : layer ∈ resolver.sheet.layers) : layer.ListedIn resolver.sheet.relevant := by
  rw [(eq_of_build built).1] at h ⊢
  exact Sheet.listedIn_relevant h

/-- Features that agree on the names that matter are drawn by the same layers. -/
theorem layersFor_congr (built : build document options = .ok resolver)
    (h : AgreeOn resolver.sheet.relevant f.view g.view) (zoom : Float) :
    resolver.layersFor zoom f.view = resolver.layersFor zoom g.view := by
  have hsource : f.view sourceLayerAttribute = g.view sourceLayerAttribute := by
    refine h sourceLayerAttribute ?_
    rw [(eq_of_build built).1]
    exact Sheet.sourceLayerAttribute_mem_relevant
  rw [layersFor_of_build built, layersFor_of_build built, Sheet.candidates_congr _ hsource]
  refine List.filter_congr fun layer hlayer => ?_
  have hlisted := listedIn_of_build built (Sheet.mem_of_mem_candidates hlayer)
  rw [CompiledLayer.applies_congr hlisted h zoom]

/-- The names in what icons and labels of a feature say, as far as they are not listed. -/
def unlisted (resolver : Resolver) (feature : Feature) (zoom : Float) : List String :=
  ((resolver.layersFor zoom feature.view).flatMap fun layer =>
    PaintView.templateNames ⟨layer.paint, zoom, feature.view⟩ feature.geometry.kind).filter
      fun name => name ∉ resolver.sheet.relevant

/-- Features that agree on the names that matter are drawn alike exactly when their icons and labels
say the same. -/
theorem instructionsOf_eq_iff (built : build document options = .ok resolver)
    (h : f.AlikeOn resolver.sheet.relevant g) :
    resolver.instructionsOf measure f zoom = resolver.instructionsOf measure g zoom ↔
      wordings (resolver.instructionsOf measure f zoom) =
        wordings (resolver.instructionsOf measure g zoom) := by
  refine ⟨congrArg wordings, fun hwordings => ?_⟩
  have hlayers := layersFor_congr built h.view zoom
  simp only [instructionsOf, wordings, List.filterMap_flatMap, ← hlayers, ← h.kind] at hwordings ⊢
  refine List.flatMap_congr fun layer hlayer => ?_
  have hlisted := listedIn_of_build built (mem_of_mem_layersFor built hlayer)
  refine PaintView.drawn_eq_of_wordings_eq (CompiledLayer.agreesWith hlisted h.view zoom) ?_
  -- The layers are drawn at different depths, so each has its own part of what is said.
  let said := fun (view : Attributes) (l : CompiledLayer) =>
    wordings (l.draw (resolver.materials measure) f.geometry.kind zoom view)
  have hpart : ∀ view, (((resolver.layersFor zoom f.view).flatMap (said view)).filter
      fun said => said.1 = layer.index) = said view layer := fun view =>
    filter_flatMap_key (fun _ _ => CompiledLayer.depth_of_mem_wordings)
      (nodup_index_layersFor built zoom f.view) hlayer
  calc said f.view layer = _ := (hpart f.view).symm
    _ = _ := congrArg (List.filter _) hwordings
    _ = said g.view layer := hpart g.view

/-- Features that agree on the names that matter and on those that are not listed are drawn alike.
-/
theorem instructionsOf_eq (built : build document options = .ok resolver)
    (h : f.AlikeOn resolver.sheet.relevant g) (hunlisted : f.AlikeOn (resolver.unlisted f zoom) g) :
    resolver.instructionsOf measure f zoom = resolver.instructionsOf measure g zoom := by
  simp only [instructionsOf, ← layersFor_congr built h.view zoom, ← h.kind]
  refine List.flatMap_congr fun layer hlayer => ?_
  have hlisted := listedIn_of_build built (mem_of_mem_layersFor built hlayer)
  have hnames : AgreeOn
      (PaintView.templateNames ⟨layer.paint, zoom, f.view⟩ f.geometry.kind) f.view g.view := by
    intro name hname
    by_cases hmem : name ∈ resolver.sheet.relevant
    · exact h.view name hmem
    · have hall : name ∈ (resolver.layersFor zoom f.view).flatMap fun layer =>
          PaintView.templateNames ⟨layer.paint, zoom, f.view⟩ f.geometry.kind :=
        List.mem_flatMap.mpr ⟨layer, hlayer, hname⟩
      exact hunlisted.view name (List.mem_filter.mpr ⟨hall, decide_eq_true hmem⟩)
  have hsketches := PaintView.sketches_eq (CompiledLayer.agreesWith hlisted h.view zoom) hnames
  exact congrArg (List.filterMap _) hsketches

/-- A name that is not listed stands in a text for an icon or a label. Either this text is one of
those written in the style, and the name is empty, or it is passed on from an attribute. -/
theorem text_of_mem_unlisted (built : build document options = .ok resolver) {name : String}
    (h : name ∈ resolver.unlisted f zoom) :
    ∃ layer ∈ resolver.layersFor zoom f.view, ∃ property ∈ f.geometry.kind.templates,
      ∃ function text, layer.paint.get? property = some function ∧ name ∈ Template.keys text ∧
        (name = "" ∧ .string text ∈ function.outputs ∨
          ∃ passed default, function = .attribute passed .identity default ∧
            f.view passed = some (.string text)) := by
  obtain ⟨hall, hmem⟩ := List.mem_filter.mp h
  obtain ⟨layer, hlayer, hname⟩ := List.mem_flatMap.mp hall
  obtain ⟨property, hproperty, text, htext, hkey⟩ := PaintView.mem_templateNames.mp hname
  obtain ⟨value, hvalue, hstring⟩ := Option.bind_eq_some_iff.mp htext
  obtain ⟨function, hfunction, hevaluate⟩ := Option.map_eq_some_iff.mp hvalue
  rw [Value.eq_string_of_string? hstring] at hevaluate
  refine ⟨layer, hlayer, property, hproperty, function, text, hfunction, hkey, ?_⟩
  rcases PropertyFunction.evaluate_eq_string hevaluate with houtput | hpassed
  · have hlisted := listedIn_of_build built (mem_of_mem_layersFor built hlayer)
    have htemplate := GeometryKind.mem_templates hproperty
    refine .inl ⟨?_, houtput⟩
    by_contra hne
    exact of_decide_eq_true hmem
      (hlisted.texts property function htemplate hfunction text houtput name hkey hne)
  · exact .inr hpassed

/-- Where a style names all that its icons and labels read, every name is listed. -/
theorem unlisted_eq_nil (built : build document options = .ok resolver)
    (hnames : resolver.sheet.NamesAll) (f : Feature) (zoom : Float) :
    resolver.unlisted f zoom = [] := by
  refine List.eq_nil_iff_forall_not_mem.mpr fun name h => ?_
  obtain ⟨layer, hlayer, property, hproperty, function, text, hfunction, hkey, hcause⟩ :=
    text_of_mem_unlisted built h
  obtain ⟨hkept, hempty⟩ := hnames layer (mem_of_mem_layersFor built hlayer) property function
    (GeometryKind.mem_templates hproperty) hfunction
  rcases hcause with ⟨rfl, houtput⟩ | ⟨passed, default, hpassed, -⟩
  · exact hempty text houtput hkey
  · exact hkept passed default hpassed

/-! ## Answers from the pool -/

/-- A request that is answered from the pool is alike the latest computation, but for the signs of
zeros. -/
theorem alikeOn_of_isHit (built : build document options = .ok resolver) {requests : List Request}
    (alike : ∀ request ∈ requests, request.MeasuredBy measure)
    (hit : resolver.isHit (resolver.run requests) g zoom = true) :
    ∃ f z, resolver.LastComputed requests measure f z ∧
      (ZerosAlike z zoom →
        (∀ name ∈ resolver.sheet.relevant, ∀ v ∈ g.view name, ∀ w ∈ f.view name, v.ZerosAlike w) →
          z = zoom ∧ f.AlikeOn resolver.sheet.relevant g) := by
  obtain ⟨m, f, z, hlast, hzoom, hvalues⟩ := (isHit_run_iff requests g zoom).mp hit
  obtain rfl : m = measure := by
    obtain ⟨before, after, rfl, -⟩ := hlast
    exact alike (.resolve m f z) (by simp)
  refine ⟨f, z, hlast, fun hzero hzeros => ⟨eq_of_beq_of_zerosAlike hzoom hzero, ?_⟩⟩
  refine Feature.alikeOn_of_view ?_ fun name hname => ?_
  · rw [(eq_of_build built).1]
    exact Sheet.geometryAttribute_mem_relevant
  · exact (Value.eq_of_sameAttribute (hvalues name hname) (hzeros name hname)).symm

/-- Which attributes matter, in four parts. The instructions are those of a resolver without
history.
1. Features that agree on the names that matter get the same instructions exactly when their icons
   and labels say the same. This they do if they agree on the names that are not listed as well.
2. A name that is not listed stands in a text that an icon or a label is made from. It is the empty
   name, or the text is passed on from an attribute by an identity function.
3. Where neither occurs in a style, features that agree on the names that matter get the same
   instructions.
4. An answer from the pool belongs to a request that agrees with the present one on the names that
   matter, the signs of zeros aside. So it is what would be computed exactly when the icons and
   labels of both say the same, which they do under the conditions above. -/
theorem resolveAt_eq_iff_wordings_eq (built : build document options = .ok resolver)
    (measure : Measurer) (zoom : Float) :
    let relevant := resolver.sheet.relevant
    let fresh := fun feature => (resolver.resolveAt measure feature zoom .start).instructions
    (∀ f g : Feature, f.AlikeOn relevant g →
      (fresh f = fresh g ↔ wordings (fresh f) = wordings (fresh g)) ∧
        (f.AlikeOn (resolver.unlisted f zoom) g → fresh f = fresh g)) ∧
    (∀ f : Feature, ∀ name ∈ resolver.unlisted f zoom,
      ∃ layer ∈ resolver.layersFor zoom f.view, ∃ property ∈ f.geometry.kind.templates,
        ∃ function text, layer.paint.get? property = some function ∧ name ∈ Template.keys text ∧
          (name = "" ∧ .string text ∈ function.outputs ∨
            ∃ passed default, function = .attribute passed .identity default ∧
              f.view passed = some (.string text))) ∧
    (resolver.sheet.NamesAll → ∀ f g : Feature, f.AlikeOn relevant g → fresh f = fresh g) ∧
    ∀ requests : List Request, (∀ request ∈ requests, request.MeasuredBy measure) →
      ∀ g : Feature, resolver.isHit (resolver.run requests) g zoom = true →
        let answer := (resolver.resolveAt measure g zoom (resolver.run requests)).instructions
        ∃ f z, resolver.LastComputed requests measure f z ∧
          (ZerosAlike z zoom →
            (∀ name ∈ relevant, ∀ v ∈ g.view name, ∀ w ∈ f.view name, v.ZerosAlike w) →
              f.AlikeOn relevant g ∧
                (answer = fresh g ↔ wordings answer = wordings (fresh g)) ∧
                (f.AlikeOn (resolver.unlisted f zoom) g → answer = fresh g) ∧
                (resolver.sheet.NamesAll → answer = fresh g)) := by
  intro relevant fresh
  have hfresh : fresh = fun feature => resolver.instructionsOf measure feature zoom :=
    funext fun feature => instructions_resolveAt_start feature zoom
  have hnamed : resolver.sheet.NamesAll → ∀ f g : Feature, f.AlikeOn relevant g →
      resolver.instructionsOf measure f zoom = resolver.instructionsOf measure g zoom := by
    intro hnames f g halike
    refine instructionsOf_eq built halike ⟨halike.kind, ?_⟩
    rw [unlisted_eq_nil built hnames]
    exact fun _ h => absurd h List.not_mem_nil
  rw [hfresh]
  refine ⟨fun f g halike => ?_, fun f name hname => text_of_mem_unlisted built hname, hnamed, ?_⟩
  · exact ⟨instructionsOf_eq_iff built halike, instructionsOf_eq built halike⟩
  · intro requests alike g hit answer
    obtain ⟨f, z, hlast, hzeros⟩ := alikeOn_of_isHit built alike hit
    have hanswer : answer = resolver.instructionsOf measure f z := by
      have hkept : answer = (resolver.run requests).instructions := by
        simp only [answer, resolveAt_of_isHit _ hit]
        rfl
      rw [hkept, instructions_of_lastComputed alike hlast]
    refine ⟨f, z, hlast, fun hzero hvalues => ?_⟩
    obtain ⟨rfl, halike⟩ := hzeros hzero hvalues
    rw [hanswer]
    exact ⟨halike, instructionsOf_eq_iff built halike, instructionsOf_eq built halike,
      fun hnames => hnamed hnames f g halike⟩

/-- A layer of labels that are passed on from an attribute. -/
def passedOnLabels : Document where
  version := supportedVersion
  layers := [
    { id := "place"
      layout := some [("text-field",
        .object [("type", .string "identity"), ("property", .string "label")])] }]

/-- The resolver of labels that are passed on. -/
def passedOnResolver : Resolver := .ofDocument passedOnLabels { parse := fun _ => none }

/-- A place whose label names another attribute. -/
def namedPlace (name kind : String) : Feature where
  geometry := ⟨.point, false⟩
  attributes := .ofPairs
    [("label", .string "\x7bname\x7d"), ("name", .string name), ("kind", .string kind)]

theorem namedPlace_alikeOn (name name' kind kind' : String) :
    (namedPlace name kind).AlikeOn passedOnResolver.sheet.relevant (namedPlace name' kind') where
  kind := rfl
  attributes := by
    have hrelevant : passedOnResolver.sheet.relevant = ["$type", "label", "layer"] := by
      decide +kernel
    intro n hn _
    rw [hrelevant] at hn
    simp only [List.mem_cons, List.not_mem_nil, or_false] at hn
    rcases hn with rfl | rfl | rfl <;> rfl

/-- Two places of one name but of different kinds are drawn alike. -/
theorem resolveAt_eq_iff_wordings_eq_namedPlace :
    let fresh := fun feature =>
      (passedOnResolver.resolveAt (fun _ _ => 1) feature 10 .start).instructions
    build passedOnLabels { parse := fun _ => none } = .ok passedOnResolver ∧
      passedOnResolver.unlisted (namedPlace "Weir" "mill") 10 = ["name"] ∧
      fresh (namedPlace "Weir" "mill") = fresh (namedPlace "Weir" "farm") := by
  intro fresh
  have built : build passedOnLabels { parse := fun _ => none } = .ok passedOnResolver := rfl
  have hunlisted : passedOnResolver.unlisted (namedPlace "Weir" "mill") 10 = ["name"] := by
    decide +kernel
  have halike := namedPlace_alikeOn "Weir" "Weir" "mill" "farm"
  refine ⟨built, hunlisted, ?_⟩
  obtain ⟨hfeatures, -⟩ := resolveAt_eq_iff_wordings_eq built (fun _ _ => 1) 10
  refine (hfeatures _ _ halike).2 ⟨rfl, fun n hn _ => ?_⟩
  rw [hunlisted, List.mem_singleton] at hn
  subst hn
  rfl

/-- Two places of different names agree on every name that matters. But they are labelled
differently, and the second is answered from the pool with the label of the first. -/
theorem instructions_namedPlace_ne :
    let resolve := fun feature => passedOnResolver.resolveAt (fun _ _ => 1) feature 10
    let requests : List Request := [.resolve (fun _ _ => 1) (namedPlace "Weir" "mill") 10]
    let state := passedOnResolver.run requests
    let fresh := fun feature => (resolve feature .start).instructions
    build passedOnLabels { parse := fun _ => none } = .ok passedOnResolver ∧
      (namedPlace "Weir" "mill").AlikeOn passedOnResolver.sheet.relevant
        (namedPlace "Ford" "mill") ∧
      fresh (namedPlace "Weir" "mill") ≠ fresh (namedPlace "Ford" "mill") ∧
      passedOnResolver.isHit state (namedPlace "Ford" "mill") 10 = true ∧
      (resolve (namedPlace "Ford" "mill") state).instructions ≠
        fresh (namedPlace "Ford" "mill") := by
  intro resolve requests state fresh
  have hweir : wordings (fresh (namedPlace "Weir" "mill")) = [(0, .label, "Weir")] := by
    decide +kernel
  have hford : wordings (fresh (namedPlace "Ford" "mill")) = [(0, .label, "Ford")] := by
    decide +kernel
  have hanswer : wordings (resolve (namedPlace "Ford" "mill") state).instructions =
      [(0, .label, "Weir")] := by
    decide +kernel
  refine ⟨rfl, namedPlace_alikeOn _ _ _ _, fun heq => ?_, by decide +kernel, fun heq => ?_⟩
  · rw [heq, hford] at hweir
    exact absurd hweir (by decide)
  · rw [heq, hford] at hanswer
    exact absurd hanswer (by decide)

end Resolver

end MapStyling
