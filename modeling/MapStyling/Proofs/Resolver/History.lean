import Mathlib
import MapStyling.Proofs.Resolver.Drawing
import MapStyling.Proofs.Resolver.Protocol
import MapStyling.Proofs.Tables

/-!
# Instructions do not depend on history

A computed answer is what a resolver without any history would answer, whatever was asked before
(`resolveAt_run_eq_start`).

The invariant is `Desk.Agrees`: each of the tables of a desk holds nothing but answers that would be
computed again under their keys. Each look-up has one law, `Finds`: it answers as the computation
does and keeps the invariant. The keys hold the bits of numbers and not the numbers, so that the
computation of a key reads its number back from the bits; no two numbers share their bits.
-/

namespace MapStyling

/-! ## What a key stands for -/

/-- The circle of a key, at depth zero. -/
def Circle.ofKey (parse : ColorParser) (key : CircleKey) : Circle where
  radius := Float.ofBits key.radius
  fill := key.fill.bind parse
  stroke := key.stroke.bind parse
  depth := 0

theorem Circle.ofKey_bits (parse : ColorParser) (radius : Float) (stroke fill : Option String) :
    Circle.ofKey parse ⟨radius.toBits, stroke, fill⟩ =
      ⟨radius, fill.bind parse, stroke.bind parse, 0⟩ := by
  simp only [Circle.ofKey, Float.ofBits_toBits]

/-! ## The invariant -/

/-- Every answer in the tables of a desk is the one that would be computed. Icons are remembered
only where there are any. -/
structure Desk.Agrees (materials : Materials) (desk : Desk) : Prop where
  colors : Memo.Agrees desk.colors materials.parse
  descriptors : Memo.Agrees desk.fonts.descriptors FontDescriptor.parse
  shorthands : Memo.Agrees desk.fonts.shorthands shorthandOfKey
  wraps : Memo.Agrees desk.wraps (Wrap.ofKey materials.measure)
  icons : ∀ icon place, desk.icons.get? icon = some place →
    materials.placement? icon = some place
  circles : Memo.Agrees desk.circles (Circle.ofKey materials.parse)

/-- A look-up gives an answer, and leaves a desk behind whose tables agree with the computations. -/
structure Finds {α : Type} (materials : Materials) (found : α × Desk) (answer : α) : Prop where
  answer : found.1 = answer
  agrees : found.2.Agrees materials

namespace Desk

variable {materials : Materials} {desk : Desk}

theorem agrees_empty (materials : Materials) : empty.Agrees materials where
  colors := Memo.agrees_nil _
  descriptors := Memo.agrees_nil _
  shorthands := Memo.agrees_nil _
  wraps := Memo.agrees_nil _
  icons := by
    intro icon place h
    cases h
  circles := Memo.agrees_nil _

/-! ## Each look-up -/

theorem color_finds (h : desk.Agrees materials) (text : String) :
    Finds materials (desk.color materials text) (materials.parse text) where
  answer := Memo.fetch_answer h.colors text
  agrees := { h with colors := Memo.fetch_agrees h.colors text }

theorem colorOf_finds (h : desk.Agrees materials) (text : Option String) :
    Finds materials (desk.colorOf materials text) (text.bind materials.parse) := by
  cases text with
  | none => exact ⟨rfl, h⟩
  | some text => exact color_finds h text

theorem colorWithOpacity_finds (h : desk.Agrees materials) (text : String) (opacity : Float) :
    Finds materials (desk.colorWithOpacity materials text opacity)
      (materials.color? text opacity) where
  answer := congrArg (·.bind (·.withOpacity? opacity)) (color_finds h text).answer
  agrees := (color_finds h text).agrees

theorem font_finds (h : desk.Agrees materials) (name : String) (size : Float) :
    Finds materials (desk.font name size) (fontCss name size) := by
  obtain ⟨hcss, hdescriptors, hshorthands⟩ :=
    FontTable.cssOfKey_agrees h.descriptors h.shorthands (size.toBits, name)
  rw [shorthandOfKey_bits] at hcss
  exact ⟨hcss, { h with descriptors := hdescriptors, shorthands := hshorthands }⟩

theorem wrap_finds (h : desk.Agrees materials) (text font : String) (ems : Float) :
    Finds materials (desk.wrap materials text font ems)
      (Wrap.wrap materials.measure text font ems) where
  answer := Wrap.Table.wrap_text h.wraps text font ems
  agrees := { h with wraps := Wrap.Table.agrees_wrap h.wraps text font ems }

theorem placement?_finds (h : desk.Agrees materials) (icon : String) :
    Finds materials (desk.placement? materials icon) (materials.placement? icon) := by
  unfold placement?
  cases hget : desk.icons.get? icon with
  | some place => exact ⟨(h.icons icon place hget).symm, h⟩
  | none =>
    cases hplace : materials.placement? icon with
    | none => exact ⟨rfl, h⟩
    | some place =>
      refine ⟨rfl, { h with icons := ?_ }⟩
      intro name found hfound
      simp only [Memo.get?] at hfound
      split at hfound
      next hname => rw [← hname, hplace, hfound]
      next => exact h.icons name found hfound

theorem circle_finds (h : desk.Agrees materials) (radius : Float) (stroke fill : Option String) :
    Finds materials (desk.circle materials radius stroke fill)
      ⟨radius, fill.bind materials.parse, stroke.bind materials.parse, 0⟩ := by
  simp only [circle]
  split
  next found hget =>
    exact ⟨(h.circles _ _ hget).trans (Circle.ofKey_bits _ radius stroke fill), h⟩
  next =>
    have hstroke := colorOf_finds h stroke
    have hfill := colorOf_finds hstroke.agrees fill
    have hcons := Memo.agrees_cons hfill.agrees.circles ⟨radius.toBits, stroke, fill⟩
    rw [Circle.ofKey_bits, ← hfill.answer, ← hstroke.answer] at hcons
    refine ⟨?_, { hfill.agrees with circles := hcons }⟩
    rw [← hfill.answer, ← hstroke.answer]

theorem findLabel_finds (h : desk.Agrees materials) (depth : Nat) (sketch : LabelSketch) :
    Finds materials (desk.findLabel materials depth sketch) (sketch.draw materials depth) := by
  have hfont := font_finds h sketch.font sketch.size
  have hwrap := wrap_finds hfont.agrees sketch.text (fontCss sketch.font sketch.size) sketch.ems
  have hcolor := colorOf_finds hwrap.agrees sketch.color
  have hhalo := colorOf_finds hcolor.agrees (sketch.halo.map (·.2))
  simp only [findLabel, hfont.answer, hwrap.answer, hcolor.answer, hhalo.answer]
  refine ⟨?_, hhalo.agrees⟩
  cases hsketch : sketch.halo with
  | none => simp only [LabelSketch.draw, hsketch, Option.bind_none]
  | some halo => simp only [LabelSketch.draw, hsketch, Option.bind_some, Option.map_some]

/-- What a sketch comes to on a desk is what it comes to without one. -/
theorem find_finds (h : desk.Agrees materials) (depth : Nat) (sketch : Sketch) :
    Finds materials (desk.find materials depth sketch) (sketch.draw? materials depth) := by
  cases sketch with
  | fill color opacity =>
    have hcolor := colorWithOpacity_finds h color opacity
    refine ⟨?_, hcolor.agrees⟩
    simp only [find, hcolor.answer, Sketch.draw?]
  | stroke color opacity pen =>
    have hcolor := colorWithOpacity_finds h color opacity
    refine ⟨?_, hcolor.agrees⟩
    simp only [find, hcolor.answer, Sketch.draw?]
  | marker icon size rotation opacity =>
    have hplace := placement?_finds h icon
    refine ⟨?_, hplace.agrees⟩
    simp only [find, hplace.answer, Sketch.draw?]
  | circle radius stroke fill =>
    have hcircle := circle_finds h radius stroke fill
    refine ⟨?_, hcircle.agrees⟩
    simp only [find, hcircle.answer, Sketch.draw?]
  | label sketch =>
    have hlabel := findLabel_finds h depth sketch
    refine ⟨?_, hlabel.agrees⟩
    simp only [find, hlabel.answer, Sketch.draw?]

/-! ## Sketches and layers -/

/-- A desk that has drawn with some materials and no others. -/
structure Sound (materials : Materials) (desk : Desk) : Prop where
  agrees : desk.Agrees materials
  fits : desk.pool.Fits

theorem Sound.reset (h : desk.Sound materials) : desk.reset.Sound materials :=
  ⟨{ h.agrees with }, desk.fits_reset⟩

/-- From one desk to another some instructions were added, and the desk stayed sound. -/
structure Adds (materials : Materials) (before after : Desk) (drawn : List Instruction) : Prop where
  active : after.pool.active = before.pool.active ++ drawn
  sound : after.Sound materials

theorem Adds.trans {first second third : Desk} {drawn drawn' : List Instruction}
    (h : Adds materials first second drawn) (h' : Adds materials second third drawn') :
    Adds materials first third (drawn ++ drawn') :=
  ⟨by rw [h'.active, h.active, List.append_assoc], h'.sound⟩

theorem draw_adds (h : desk.Sound materials) (depth : Nat) (sketch : Sketch) :
    Adds materials desk (desk.draw materials depth sketch)
      (sketch.draw? materials depth).toList where
  active := by rw [active_draw h.fits, (find_finds h.agrees depth sketch).answer]
  sound := by
    refine ⟨?_, fits_draw h.fits sketch⟩
    have hfind := (find_finds h.agrees depth sketch).agrees
    rw [draw_eq_put]
    cases (desk.find materials depth sketch).1 with
    | none => exact hfind
    | some instruction => exact { hfind with }

/-- Drawing a list of things one by one adds the instructions of each. -/
theorem foldl_adds {α : Type} {draw : Desk → α → Desk} {drawn : α → List Instruction}
    (step : ∀ {desk : Desk}, desk.Sound materials →
      ∀ a, Adds materials desk (draw desk a) (drawn a))
    (h : desk.Sound materials) (as : List α) :
    Adds materials desk (as.foldl draw desk) (as.flatMap drawn) := by
  induction as generalizing desk with
  | nil => exact ⟨(List.append_nil _).symm, h⟩
  | cons a as ih => exact (step h a).trans (ih (step h a).sound)

theorem drawLayer_adds (kind : GeometryKind) (zoom : Float) (attributes : Attributes)
    (h : desk.Sound materials) (layer : CompiledLayer) :
    Adds materials desk (desk.drawLayer materials kind zoom attributes layer)
      (layer.draw materials kind zoom attributes) := by
  have hsketches := foldl_adds (fun h sketch => draw_adds h layer.index sketch) h
    (layer.sketches kind zoom attributes)
  rw [← List.filterMap_eq_flatMap_toList] at hsketches
  exact hsketches

end Desk

namespace Resolver

variable {resolver : Resolver} {measure : Measurer}

/-! ## Runs -/

/-- Drawing a feature on a sound desk gives its instructions, whatever the desk has drawn before. -/
theorem drawOn_adds {desk : Desk} (h : desk.Sound (resolver.materials measure)) (feature : Feature)
    (zoom : Float) :
    (resolver.drawOn measure feature zoom desk).pool.active =
        resolver.instructionsOf measure feature zoom ∧
      (resolver.drawOn measure feature zoom desk).Sound (resolver.materials measure) := by
  have hadds := Desk.foldl_adds
    (fun h layer => Desk.drawLayer_adds feature.geometry.kind zoom feature.view h layer) h.reset
    (resolver.layersFor zoom feature.view)
  exact ⟨hadds.active, hadds.sound⟩

theorem sound_start : State.start.desk.Sound (resolver.materials measure) :=
  ⟨Desk.agrees_empty _, Pool.fits_empty⟩

/-- A desk stays sound over a run of requests that all measure widths alike. -/
theorem sound_run {requests : List Request}
    (alike : ∀ request ∈ requests, request.MeasuredBy measure) :
    (resolver.run requests).desk.Sound (resolver.materials measure) := by
  induction requests using List.reverseRecOn with
  | nil => exact sound_start
  | append_singleton requests request ih =>
    have hbefore := ih fun r hr => alike r (List.mem_append_left _ hr)
    have hlast := alike request (List.mem_append_right _ (List.mem_singleton_self _))
    rw [run_concat]
    cases request with
    | invalidate => exact hbefore
    | resolve m f z =>
      cases hlast
      rw [serve]
      cases hit : resolver.isHit (resolver.run requests) f z with
      | true =>
        rw [resolveAt_of_isHit _ hit]
        exact hbefore
      | false =>
        rw [resolveAt_of_not_isHit _ hit]
        exact (drawOn_adds hbefore f z).2

/-- A computed answer holds the instructions of the feature. -/
theorem instructions_resolveAt_of_not_isHit {state : State}
    (h : state.desk.Sound (resolver.materials measure)) {feature : Feature} {zoom : Float}
    (miss : resolver.isHit state feature zoom = false) :
    (resolver.resolveAt measure feature zoom state).instructions =
      resolver.instructionsOf measure feature zoom := by
  rw [resolveAt_of_not_isHit _ miss]
  exact (drawOn_adds h feature zoom).1

/-- A state holds the instructions of the latest computation of its run. -/
theorem instructions_of_lastComputed {requests : List Request}
    (alike : ∀ request ∈ requests, request.MeasuredBy measure) {m : Measurer} {f : Feature}
    {z : Float} (h : resolver.LastComputed requests m f z) :
    (resolver.run requests).instructions = resolver.instructionsOf measure f z := by
  induction requests using List.reverseRecOn with
  | nil => exact absurd h not_lastComputed_nil
  | append_singleton requests request ih =>
    have hbefore : ∀ r ∈ requests, r.MeasuredBy measure :=
      fun r hr => alike r (List.mem_append_left _ hr)
    have hlast := alike request (List.mem_append_right _ (List.mem_singleton_self _))
    rw [run_concat]
    cases request with
    | invalidate => exact absurd h not_lastComputed_concat_invalidate
    | resolve m' f' z' =>
      cases hlast
      rcases lastComputed_concat_resolve.mp h with ⟨miss, rfl, rfl, rfl⟩ | ⟨hit, hkept⟩
      · exact instructions_resolveAt_of_not_isHit (sound_run hbefore) miss
      · rw [serve, resolveAt_of_isHit _ hit]
        exact ih hbefore hkept

/-- Every answer holds the instructions of the feature that it was computed for: of the present one,
unless it comes from the pool. -/
theorem exists_instructions_resolveAt {requests : List Request}
    (alike : ∀ request ∈ requests, request.MeasuredBy measure) (feature : Feature) (zoom : Float) :
    ∃ f z, resolver.LastComputed (requests ++ [.resolve measure feature zoom]) measure f z ∧
      (resolver.isHit (resolver.run requests) feature zoom = false → f = feature ∧ z = zoom) ∧
      (resolver.resolveAt measure feature zoom (resolver.run requests)).instructions =
        resolver.instructionsOf measure f z := by
  have hall : ∀ request ∈ requests ++ [.resolve measure feature zoom],
      request.MeasuredBy measure := by
    intro request h
    rcases List.mem_append.mp h with hbefore | hpresent
    · exact alike request hbefore
    · rw [List.mem_singleton.mp hpresent]
      rfl
  obtain ⟨m, f, z, hlast, hmiss⟩ := resolver.exists_lastComputed requests measure feature zoom
  obtain rfl : m = measure := by
    obtain ⟨before, after, hrequests, -⟩ := hlast
    exact hall (.resolve m f z) (by simp [hrequests])
  refine ⟨f, z, hlast, hmiss, ?_⟩
  rw [← instructions_of_lastComputed hall hlast, run_concat]
  rfl

/-- The first answer of a resolver holds the instructions of the feature. -/
theorem instructions_resolveAt_start (feature : Feature) (zoom : Float) :
    (resolver.resolveAt measure feature zoom .start).instructions =
      resolver.instructionsOf measure feature zoom :=
  instructions_resolveAt_of_not_isHit sound_start (isHit_start resolver feature zoom)

/-- A computed answer does not depend on history: after any requests that measured widths as this
one does, the instructions of a feature that is computed are those that the same resolver gives it
first. They are equal in number, in order and in every field. -/
theorem resolveAt_run_eq_start (resolver : Resolver) (measure : Measurer) (requests : List Request)
    (alike : ∀ request ∈ requests, request.MeasuredBy measure) (feature : Feature) (zoom : Float)
    (miss : resolver.isHit (resolver.run requests) feature zoom = false) :
    (resolver.resolveAt measure feature zoom (resolver.run requests)).instructions =
      (resolver.resolveAt measure feature zoom .start).instructions := by
  rw [instructions_resolveAt_of_not_isHit (sound_run alike) miss, instructions_resolveAt_start]

/-- Dashed lines for rails and plain ones for roads. -/
def dashedAndPlain : Document where
  version := supportedVersion
  layers := [
    { id := "rail"
      filter := some (.array [.string "==", .string "class", .string "rail"])
      paint := some [("line-color", .string "black"),
        ("line-dasharray", .array [.number (.integer 4), .number (.integer 2)])] },
    { id := "road"
      filter := some (.array [.string "==", .string "class", .string "road"])
      paint := some [("line-color", .string "gray")] }]

/-- The resolver of dashed and plain lines, for which every color is black. -/
def dashedAndPlainResolver : Resolver :=
  .ofDocument dashedAndPlain { parse := fun _ => some (.ofBytes 0 0 0 255) }

/-- A line of some class. -/
def lineOfClass (name : String) : Feature where
  geometry := ⟨.lineString, false⟩
  attributes := .ofPairs [("class", .string name)]

/-- A road after a rail is drawn into the slot of the dashed line. -/
theorem resolveAt_run_eq_start_rail_road :
    let measure : Measurer := fun _ _ => 1
    let requests : List Request :=
      [.resolve measure (lineOfClass "road") 10, .invalidate,
        .resolve measure (lineOfClass "rail") 10]
    let state := dashedAndPlainResolver.run requests
    (∀ request ∈ requests, request.MeasuredBy measure) ∧
      dashedAndPlainResolver.isHit state (lineOfClass "road") 10 = false ∧
      (dashedAndPlainResolver.resolveAt measure (lineOfClass "road") 10 state).instructions =
        (dashedAndPlainResolver.resolveAt measure (lineOfClass "road") 10 .start).instructions := by
  intro measure requests state
  have alike : ∀ request ∈ requests, request.MeasuredBy measure := by
    intro request h
    simp only [requests, List.mem_cons, List.not_mem_nil, or_false] at h
    rcases h with rfl | rfl | rfl
    · rfl
    · trivial
    · rfl
  have miss : dashedAndPlainResolver.isHit state (lineOfClass "road") 10 = false := by
    decide +kernel
  exact ⟨alike, miss,
    resolveAt_run_eq_start dashedAndPlainResolver measure requests alike (lineOfClass "road") 10
      miss⟩

end Resolver

end MapStyling
