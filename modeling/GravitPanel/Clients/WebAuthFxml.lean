import GravitPanel.Core.TextEdits

/-!
# The web authorization window

The fix of `webauth.fxml`: the style of the tooltip is taken out and the
button that copies the link is put before the one that submits.
-/

namespace GravitPanel.Clients.WebAuth

open TextEdits

def tooltipStyle : Text := " styleClass=\"tooltip\"".toList

def copyLinkId : Text := "id=\"copyLink\"".toList

def submitMarker : Text := "<Button id=\"submit\"".toList

def copyLinkButton : Text :=
  ("<Button id=\"copyLink\" alignment=\"CENTER\" " ++
    "contentDisplay=\"CENTER\" graphicTextGap=\"0.0\" " ++
    "styleClass=\"dialog-button\" " ++
    "text=\"%runtime.overlay.webauth.webauth.copyLink\" />\n" ++
    "                           ").toList

def includes (text pattern : Text) : Bool :=
  decide (pattern <:+: text)

def applyWebAuthFxmlFix (source : Text) : Except String Text :=
  let next := replaceFirst tooltipStyle [] source
  if includes next copyLinkId then .ok next
  else if !includes next submitMarker then
    .error "LauncherRuntime web auth resource is missing the submit button"
  else .ok (replaceFirst submitMarker (copyLinkButton ++ submitMarker) next)

/-- An attribute of a start tag, with the white space before it. -/
structure Attribute where
  space : Text
  name : Text
  quote : Char
  value : Text

namespace Attribute

def text (part : Attribute) : Text :=
  part.space ++ part.name ++
    '=' :: part.quote :: part.value ++ [part.quote]

def isSpace (letter : Char) : Bool :=
  letter ∈ [' ', '\t', '\r', '\n']

def WellFormed (part : Attribute) : Prop :=
  part.space ≠ [] ∧
    (∀ letter ∈ part.space, isSpace letter = true) ∧
    part.name ≠ [] ∧
    (∀ letter ∈ part.name,
      isSpace letter = false ∧
        letter ∉ ['=', '<', '>', '/', '"', '\'']) ∧
    part.quote ∈ ['"', '\''] ∧
    ∀ letter ∈ part.value, letter ≠ part.quote ∧ letter ≠ '<'

instance (part : Attribute) : Decidable part.WellFormed :=
  decidable_of_iff
    (part.space ≠ [] ∧ part.space.all isSpace = true ∧ part.name ≠ [] ∧
      (part.name.all fun letter => !isSpace letter &&
        decide (letter ∉ ['=', '<', '>', '/', '"', '\''])) = true ∧
      part.quote ∈ ['"', '\''] ∧
      (part.value.all fun letter =>
        decide (letter ≠ part.quote ∧ letter ≠ '<')) = true)
    (by simp only [WellFormed, List.all_eq_true, Bool.and_eq_true,
      Bool.not_eq_true', decide_eq_true_eq])

end Attribute

/-- The text has the tag of a button whose identifier is `copyLink`. -/
def HasCopyLinkButton (text : Text) : Prop :=
  ∃ (before : Text) (attributes : List Attribute)
      (space closing after : Text),
    text =
        before ++ "<Button".toList ++
          attributes.flatMap Attribute.text ++ space ++ closing ++ after ∧
      (∀ part ∈ attributes, part.WellFormed) ∧
      (∃ part ∈ attributes,
        (part.name = "id".toList ∨ part.name = "fx:id".toList) ∧
          part.value = "copyLink".toList) ∧
      (∀ letter ∈ space, Attribute.isSpace letter = true) ∧
      (closing = ['>'] ∨ closing = ['/', '>'])

/-- With one style of a tooltip taken out, the text has no other, and what it
identifies as `copyLink` is a button. -/
def FxmlRepairable (text : Text) : Prop :=
  ∀ rest, TakenOut tooltipStyle text rest →
    ¬ tooltipStyle <:+: rest ∧
      (copyLinkId <:+: rest → HasCopyLinkButton rest)

@[simp]
theorem includes_iff (text pattern : Text) :
    includes text pattern = true ↔ pattern <:+: text :=
  decide_eq_true_iff

theorem tooltipStyle_ne_nil : tooltipStyle ≠ [] := by
  decide

variable {source fixed : Text}

theorem applyWebAuthFxmlFix_cases
    (run : applyWebAuthFxmlFix source = .ok fixed) :
    copyLinkId <:+: replaceFirst tooltipStyle [] source ∧
        fixed = replaceFirst tooltipStyle [] source ∨
      ¬ copyLinkId <:+: replaceFirst tooltipStyle [] source ∧
        ∃ before after,
          replaceFirst tooltipStyle [] source =
              before ++ submitMarker ++ after ∧
            fixed = before ++ (copyLinkButton ++ submitMarker) ++ after := by
  rw [applyWebAuthFxmlFix] at run
  by_cases named : copyLinkId <:+: replaceFirst tooltipStyle [] source
  · rw [if_pos ((includes_iff _ _).mpr named)] at run
    exact Or.inl ⟨named, (Except.ok.inj run).symm⟩
  · rw [if_neg (mt (includes_iff _ _).mp named)] at run
    by_cases marked : submitMarker <:+: replaceFirst tooltipStyle [] source
    · rw [(includes_iff _ _).mpr marked, Bool.not_true,
        if_neg Bool.false_ne_true] at run
      rcases replaceFirst_cases (by decide : submitMarker ≠ [])
          (copyLinkButton ++ submitMarker)
          (replaceFirst tooltipStyle [] source) with
        ⟨missing, _⟩ | ⟨before, after, whole, result⟩
      · exact absurd marked missing
      · exact Or.inr ⟨named, before, after, whole,
          by rw [← Except.ok.inj run, result]⟩
    · rw [includes, decide_eq_false marked, Bool.not_false,
        if_pos rfl] at run
      cases run

theorem tooltipStyle_infix_tag (before after : Text) :
    tooltipStyle <:+: before ++ '<' :: after ↔
      tooltipStyle <:+: before ∨ tooltipStyle <:+: after :=
  infix_append_cons_iff (by decide) before after

/-- The button that the fix puts in. -/
def copyLinkAttributes : List Attribute :=
  [("id", "copyLink"), ("alignment", "CENTER"),
    ("contentDisplay", "CENTER"), ("graphicTextGap", "0.0"),
    ("styleClass", "dialog-button"),
    ("text", "%runtime.overlay.webauth.webauth.copyLink")].map
    fun part =>
      { space := [' '], name := part.1.toList, quote := '"',
        value := part.2.toList }

theorem copyLinkButton_spec :
    copyLinkButton = '<' :: copyLinkButton.tail ∧
      ¬ tooltipStyle <:+: copyLinkButton.tail ∧
      copyLinkId <:+: copyLinkButton ∧
      tooltipStyle.length < copyLinkButton.length ∧
      copyLinkButton =
        "<Button".toList ++ copyLinkAttributes.flatMap Attribute.text ++
          [' '] ++ ['/', '>'] ++ "\n                           ".toList := by
  have style : tooltipStyle = _ := toList_spelled rfl
  have identifier : copyLinkId = _ := toList_spelled rfl
  have button : copyLinkButton = _ :=
    toList_append_spelled (toList_append_spelled (toList_append_spelled
      (toList_append_spelled (toList_spelled rfl) rfl) rfl) rfl) rfl
  rw [style, identifier, button]
  decide +kernel

theorem copyLinkAttributes_spec :
    (∀ part ∈ copyLinkAttributes, part.WellFormed) ∧
      ∃ part ∈ copyLinkAttributes,
        (part.name = "id".toList ∨ part.name = "fx:id".toList) ∧
          part.value = "copyLink".toList := by
  decide +kernel

theorem tooltipStyle_infix_fixed
    (run : applyWebAuthFxmlFix source = .ok fixed) :
    tooltipStyle <:+: fixed ↔
      tooltipStyle <:+: replaceFirst tooltipStyle [] source := by
  rcases applyWebAuthFxmlFix_cases run with
    ⟨_, same⟩ | ⟨_, before, after, whole, result⟩
  · rw [same]
  · obtain ⟨button, absent, _⟩ := copyLinkButton_spec
    have marker : submitMarker = '<' :: submitMarker.tail := by
      decide
    rw [whole, result, button, marker, List.append_assoc,
      List.append_assoc, List.cons_append, List.append_assoc,
      List.cons_append, tooltipStyle_infix_tag, tooltipStyle_infix_tag,
      tooltipStyle_infix_tag, or_iff_right absent]

theorem copyLinkId_infix_fixed
    (run : applyWebAuthFxmlFix source = .ok fixed) :
    copyLinkId <:+: fixed := by
  rcases applyWebAuthFxmlFix_cases run with
    ⟨named, same⟩ | ⟨_, before, after, _, result⟩
  · rwa [same]
  · rw [result]
    obtain ⟨-, -, identified, -⟩ := copyLinkButton_spec
    exact identified.trans ⟨before, submitMarker ++ after, by simp⟩

theorem applyWebAuthFxmlFix_again_iff
    (run : applyWebAuthFxmlFix source = .ok fixed) :
    applyWebAuthFxmlFix fixed = .ok fixed ↔
      ¬ tooltipStyle <:+: fixed := by
  constructor
  · intro again within
    have next :
        (replaceFirst tooltipStyle [] fixed).length +
          tooltipStyle.length = fixed.length := by
      rcases replaceFirst_cases tooltipStyle_ne_nil [] fixed with
        ⟨missing, _⟩ | ⟨before, after, whole, result⟩
      · exact absurd within missing
      · rw [result]
        have lengths := congrArg List.length whole
        simp only [List.length_append, List.length_nil] at lengths ⊢
        omega
    obtain ⟨-, -, -, sizes, -⟩ := copyLinkButton_spec
    have style := List.length_pos_iff.mpr tooltipStyle_ne_nil
    rcases applyWebAuthFxmlFix_cases again with
      ⟨_, same⟩ | ⟨_, before, after, whole, result⟩
    · rw [← same] at next
      omega
    · have shorter := congrArg List.length whole
      have longer := congrArg List.length result
      simp only [List.length_append] at shorter longer
      omega
  · intro clean
    have named :
        includes (replaceFirst tooltipStyle [] fixed) copyLinkId = true := by
      rw [replaceFirst_of_missing tooltipStyle_ne_nil [] clean]
      exact decide_eq_true (copyLinkId_infix_fixed run)
    rw [applyWebAuthFxmlFix, if_pos named,
      replaceFirst_of_missing tooltipStyle_ne_nil [] clean]

theorem hasCopyLinkButton_inserted (before after : Text) :
    HasCopyLinkButton
      (before ++ (copyLinkButton ++ submitMarker) ++ after) := by
  obtain ⟨formed, identified⟩ := copyLinkAttributes_spec
  obtain ⟨-, -, -, -, shape⟩ := copyLinkButton_spec
  refine ⟨before, copyLinkAttributes, [' '], ['/', '>'],
    "\n                           ".toList ++ submitMarker ++ after,
    ?_, formed, identified, List.forall_mem_singleton.mpr rfl, Or.inr rfl⟩
  rw [shape]
  simp only [List.append_assoc]

/-- The fixed text is stable and has the button exactly when the text was
repairable. -/
theorem fxmlRepaired_iff
    (run : applyWebAuthFxmlFix source = .ok fixed) :
    applyWebAuthFxmlFix fixed = .ok fixed ∧ HasCopyLinkButton fixed ↔
      FxmlRepairable source := by
  rw [applyWebAuthFxmlFix_again_iff run, tooltipStyle_infix_fixed run]
  have taken := takenOut_replaceFirst tooltipStyle_ne_nil source
  have button :
      HasCopyLinkButton fixed ↔
        (copyLinkId <:+: replaceFirst tooltipStyle [] source →
          HasCopyLinkButton (replaceFirst tooltipStyle [] source)) := by
    rcases applyWebAuthFxmlFix_cases run with
      ⟨named, same⟩ | ⟨unnamed, before, after, _, result⟩
    · rw [same]
      exact ⟨fun has _ => has, fun has => has named⟩
    · rw [result]
      constructor
      · intro _ named
        exact absurd named unnamed
      · intro _
        exact hasCopyLinkButton_inserted before after
  rw [button]
  constructor
  · rintro ⟨clean, identified⟩ rest other
    have letters :
        tooltipStyle = ' ' :: tooltipStyle.tail ∧
          ' ' ∉ tooltipStyle.tail := by
      decide
    rw [letters.1] at taken clean other
    rw [TakenOut.unique letters.2 clean taken other, ← letters.1]
    rw [← letters.1] at clean
    exact ⟨clean, identified⟩
  · intro repairable
    exact repairable _ taken

end GravitPanel.Clients.WebAuth
