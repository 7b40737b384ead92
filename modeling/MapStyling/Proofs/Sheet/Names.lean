import MapStyling.Proofs.Outputs

/-!
# The names that matter

What a compiled layer looks at is listed (`CompiledLayer.ListedIn`): the attributes of its filter,
those of its property functions, and those that the texts of icons and labels name, as far as these
texts are written in its declarations. The names that matter to a sheet list every layer of the
sheet (`Sheet.listedIn_relevant`).

A text that is not written in the declarations, but is passed on from an attribute, may name
attributes that are not listed, and so may any text name the attribute without a name.
-/

namespace MapStyling

/-! ## The functions of a layer -/

namespace Paint

theorem get?_cons (entry : Property × PropertyFunction) (paint : Paint) (property : Property) :
    get? (entry :: paint) property =
      if entry.1 = property then some entry.2 else paint.get? property := by
  unfold get?
  rw [List.find?_cons]
  by_cases hp : entry.1 = property
  · simp [hp]
  · simp [hp]

theorem mem_of_get? {paint : Paint} {property : Property} {function : PropertyFunction}
    (h : paint.get? property = some function) : (property, function) ∈ paint := by
  obtain ⟨entry, hfind, rfl⟩ := Option.map_eq_some_iff.mp h
  have hproperty : entry.1 = property := by
    simpa using List.find?_some hfind
  rw [← hproperty]
  exact List.mem_of_find?_eq_some hfind

/-- The function of a property is compiled from its declaration. -/
theorem get?_ofDeclarations (declarations : Keyed Json) (property : Property) :
    (ofDeclarations declarations).get? property =
      (declarations.get? property.name).map (compileProperty property) := by
  unfold get? ofDeclarations
  rw [List.find?_filterMap]
  cases hfind : Property.all.find? fun p => Option.any (fun entry => decide (entry.1 = property))
      ((declarations.get? p.name).map fun declaration => (p, compileProperty p declaration)) with
  | none =>
    have hnone := List.find?_eq_none.mp hfind property property.mem_all
    cases hdeclared : declarations.get? property.name with
    | none => rfl
    | some declaration => simp [hdeclared] at hnone
  | some p =>
    have hsome := List.find?_some hfind
    cases hdeclared : declarations.get? p.name with
    | none => simp [hdeclared] at hsome
    | some declaration =>
      obtain rfl : p = property := by simpa [hdeclared] using hsome
      rw [Option.bind_some, hdeclared]
      rfl

/-- Functions may be changed one by one. -/
theorem get?_map (change : Property → PropertyFunction → PropertyFunction) (paint : Paint)
    (property : Property) :
    get? (paint.map fun entry => (entry.1, change entry.1 entry.2)) property =
      (paint.get? property).map (change property) := by
  induction paint with
  | nil => rfl
  | cons entry paint ih =>
    rw [List.map_cons, get?_cons, get?_cons, ih]
    by_cases hentry : entry.1 = property
    · rw [if_pos hentry, if_pos hentry, hentry, Option.map_some]
    · rw [if_neg hentry, if_neg hentry]

/-- Fonts are chosen in the outputs of the function that has them, where there are labels. -/
theorem get?_chooseFonts (fonts : Option (List String)) (paint : Paint) (property : Property) :
    (paint.chooseFonts fonts).get? property = (paint.get? property).map fun function =>
      if paint.contains .textField = true ∧ property = .textFont then
        function.mapOutputs (chooseFont fonts)
      else function := by
  unfold chooseFonts
  by_cases hlabel : paint.contains .textField = true
  · rw [if_pos hlabel]
    refine Eq.trans ?_ (get?_map (fun property function =>
      if paint.contains .textField = true ∧ property = .textFont then
        function.mapOutputs (chooseFont fonts)
      else function) paint property)
    refine congrArg (get? · property) (List.map_congr_left fun entry _ => ?_)
    dsimp only
    by_cases hfont : entry.1 = .textFont
    · rw [if_pos hfont, if_pos ⟨hlabel, hfont⟩]
    · rw [if_neg hfont, if_neg fun h => hfont h.2]
  · rw [if_neg hlabel]
    simp only [hlabel]
    exact Option.map_id'.symm

/-- Choosing fonts leaves the other properties alone. -/
theorem get?_chooseFonts_of_ne {fonts : Option (List String)} {paint : Paint}
    {property : Property} (hproperty : property ≠ .textFont) :
    (paint.chooseFonts fonts).get? property = paint.get? property := by
  simp only [get?_chooseFonts, hproperty, and_false, if_false]
  exact Option.map_id'

end Paint

/-! ## Lists of names -/

/-- A list of names has all that a layer looks at, but for what is passed on from attributes. -/
structure CompiledLayer.ListedIn (names : List String) (layer : CompiledLayer) : Prop where
  filter : ∀ filter, layer.filter = some filter → ∀ key ∈ filter.keys, key ∈ names
  functions : ∀ property function, layer.paint.get? property = some function →
    ∀ name, function.attribute? = some name → name ∈ names
  texts : ∀ property function, property = .iconImage ∨ property = .textField →
    layer.paint.get? property = some function → ∀ text, .string text ∈ function.outputs →
      ∀ key ∈ Template.keys text, key ≠ "" → key ∈ names

theorem CompiledLayer.ListedIn.mono {names names' : List String} {layer : CompiledLayer}
    (h : layer.ListedIn names) (hsub : ∀ name ∈ names, name ∈ names') : layer.ListedIn names' where
  filter := fun filter hfilter key hkey => hsub key (h.filter filter hfilter key hkey)
  functions := fun property function hfunction name hname =>
    hsub name (h.functions property function hfunction name hname)
  texts := fun property function hproperty hfunction text htext key hkey hne =>
    hsub key (h.texts property function hproperty hfunction text htext key hkey hne)

/-- The texts of icons and labels that a function holds are written in its declaration. -/
theorem Paint.writtenIn_compileProperty {property : Property} {declaration : Json} {text : String}
    (hproperty : property = .iconImage ∨ property = .textField)
    (h : .string text ∈ (compileProperty property declaration).outputs) :
    PropertyFunction.WrittenIn declaration (.string text) := by
  have hcompile : compileProperty property declaration =
      .compile declaration .piecewise none := by
    rcases hproperty with rfl | rfl <;> rfl
  rw [hcompile] at h
  rcases PropertyFunction.mem_outputs_compile h with hfallback | hnull | hwritten
  · cases hfallback
  · cases hnull
  · exact hwritten

/-- The names of a layer list what it looks at. -/
theorem Layer.listedIn_names (layer : Layer) (index : Nat) (fonts : Option (List String)) :
    (layer.compile index fonts).ListedIn (layer.names (layer.compile index fonts)) where
  filter := by
    intro filter hfilter key hkey
    simp only [names, hfilter, Option.map_some, Option.getD_some, List.append_assoc]
    exact List.mem_append_left _ hkey
  functions := by
    intro property function hfunction name hname
    exact List.mem_append_right _
      (List.mem_filterMap.mpr ⟨(property, function), Paint.mem_of_get? hfunction, hname⟩)
  texts := by
    intro property function hproperty hfunction text htext key hkey hne
    have hfont : property ≠ .textFont := by
      rcases hproperty with rfl | rfl <;> decide
    have hdeclared : ((layer.paint.getD []).get? property.name).map
        (Paint.compileProperty property) = some function := by
      rw [← Paint.get?_ofDeclarations, ← Paint.get?_chooseFonts_of_ne hfont]
      exact hfunction
    obtain ⟨declaration, hmember, rfl⟩ := Option.map_eq_some_iff.mp hdeclared
    have hwritten := Paint.writtenIn_compileProperty hproperty htext
    have hnamed : key ∈ templateNames layer.paint :=
      Template.mem_keysInMembers.mpr
        ⟨_, Keyed.mem_of_get? hmember, hwritten.mem_keysIn hkey hne⟩
    exact List.mem_append_left _ (List.mem_append_right _ hnamed)

namespace Sheet

variable {document : Document} {selection : LayerSelection} {fonts : Option (List String)}

/-- The kind of geometry always matters. -/
theorem geometryAttribute_mem_relevant :
    geometryAttribute ∈ (compile document selection fonts).relevant :=
  Names.mem_ofList.mpr List.mem_cons_self

/-- The source-layer always matters. -/
theorem sourceLayerAttribute_mem_relevant :
    sourceLayerAttribute ∈ (compile document selection fonts).relevant :=
  Names.mem_ofList.mpr (List.mem_cons_of_mem _ List.mem_cons_self)

/-- The names that matter to a sheet list every layer of it. -/
theorem listedIn_relevant {layer : CompiledLayer}
    (h : layer ∈ (compile document selection fonts).layers) :
    layer.ListedIn (compile document selection fonts).relevant := by
  obtain ⟨⟨prepared, index⟩, hprepared, rfl⟩ := List.mem_map.mp h
  refine (prepared.listedIn_names index fonts).mono fun name hname => ?_
  refine Names.mem_ofList.mpr (List.mem_cons_of_mem _ (List.mem_cons_of_mem _ ?_))
  exact List.mem_flatMap.mpr ⟨(prepared, index), hprepared, hname⟩

end Sheet

end MapStyling
