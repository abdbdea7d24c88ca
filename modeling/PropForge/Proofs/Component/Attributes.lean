import PropForge.Proofs.Component.Literals
import PropForge.Proofs.Text.Reference

/-!
# Values as attributes

The test of a variant's value renders the component with the value as an attribute:

* `inAttribute_eq_replaced`: the references in an attribute, made one after the other;
* `attributeValue_attributeText`: what is read from an opening quote up to the next one;
* `attributes_read_back`: every text is read back from its attribute, and so is the value in each test.
-/

namespace PropForge

open Template

namespace Text

/-- The references may be made one after the other if that of the ampersand is the first. -/
theorem inAttribute_eq_replaced (cs : List Char) :
    inAttribute cs = replaced '"' "&quot;".toList (replaced '&' "&amp;".toList cs) := by
  simp only [inAttribute, replaced, List.flatMap_assoc]
  congr 1
  funext c
  unfold attributeChar
  split
  · rfl
  · rfl
  · rename_i ampersand quote
    rw [if_neg ampersand, List.flatMap_singleton, if_neg quote]

/-- The value of an attribute in double quotes, of which the opening one has been read. -/
def attributeValue (reading : Reading) (cs : List Char) : List Char :=
  decoded reading (cs.takeWhile (· ≠ '"'))

end Text

theorem toList_attributeText (s : String) :
    (attributeText s).toList = Text.inAttribute s.toList := by
  rw [attributeText, onChars, String.toList_ofList]

theorem quote_notMem_attributeText (s : String) : '"' ∉ (attributeText s).toList := by
  rw [toList_attributeText]
  exact Text.quote_notMem_inAttribute s.toList

/-- The test of a value gives it as an attribute of the name of its prop. -/
theorem VariantCase.exists_attributeText_of_testText (component lower : String) (c : VariantCase) :
    ∃ front back, c.testText component lower =
      front ++ c.propName ++ "=\"" ++ (attributeText c.value ++ "\"" ++ back) := by
  refine ⟨"\n" ++ "  it(" ++
    quotedText ("renders with " ++ c.propName ++ " variant '" ++ c.value ++ "'") ++
    ", () => \x7b\n" ++ "    render(<" ++ component ++ " ", ">Test</" ++ component ++ ">);\n" ++
    "    expect(screen.getByText(\"Test\")).toHaveClass(\"" ++ cssPrefix ++ lower ++ "--" ++
    literalText c.value ++ "\");\n" ++ "  \x7d);\n", ?_⟩
  have closing : "\">Test</" = "\"" ++ ">Test</" := by decide
  unfold VariantCase.testText
  rw [closing]
  simp only [String.append_assoc]

section Reading

variable {names : Text.Vocabulary} (amp : names.value? "amp".toList = some ['&'])
  (quot : names.value? "quot".toList = some ['"'])

include amp quot

theorem decoded_attributeText (s : String) :
    Text.decoded names.reading (attributeText s).toList = s.toList := by
  rw [toList_attributeText]
  apply Text.decoded_inAttribute
  · exact Text.Vocabulary.reading_name (by simp) amp
  · exact Text.Vocabulary.reading_name (by simp) quot

/-- **An attribute** is read as the text that was written into it, whatever follows it. -/
theorem attributeValue_attributeText (s rest : String) :
    Text.attributeValue names.reading (attributeText s ++ "\"" ++ rest).toList = s.toList := by
  have inside : ∀ c ∈ (attributeText s).toList, decide (c ≠ '"') = true := by
    intro c hc
    apply decide_eq_true
    rintro rfl
    exact quote_notMem_attributeText s hc
  have ends : (attributeText s ++ "\"" ++ rest).toList =
      (attributeText s).toList ++ '"' :: rest.toList := by simp
  rw [Text.attributeValue, ends, Text.takeWhile_append_cons inside (by decide)]
  exact decoded_attributeText amp quot s

/-- **Every text is read back from its attribute.** It is written with a reference for each ampersand
and each double quote, so that it does not end the attribute, and HTML reads it as it was, whatever
other names the references have and even if the text looks like a reference itself. Each test of a
variant's value has the value as such an attribute, which is read as the value. -/
theorem attributes_read_back :
    (∀ s : String,
      (attributeText s).toList =
        Text.replaced '"' "&quot;".toList (Text.replaced '&' "&amp;".toList s.toList) ∧
      '"' ∉ (attributeText s).toList ∧
      Text.decoded names.reading (attributeText s).toList = s.toList) ∧
    ∀ (v : ComponentView) (framework : Framework),
      (∃ front back, Generator.render ⟨framework, v⟩ (Template.library none) .tests =
        .ok (front ++ String.join (v.cases.map (VariantCase.testText v.name v.nameLower)) ++
          back)) ∧
      ∀ c ∈ v.cases, ∃ front back,
        c.testText v.name v.nameLower = front ++ c.propName ++ "=\"" ++ back ∧
        Text.attributeValue names.reading back.toList = c.value.toList := by
  constructor
  · intro s
    refine ⟨?_, quote_notMem_attributeText s, decoded_attributeText amp quot s⟩
    rw [toList_attributeText]
    exact Text.inAttribute_eq_replaced s.toList
  · intro v framework
    refine ⟨v.render_tests framework, ?_⟩
    intro c _
    obtain ⟨front, back, text⟩ := c.exists_attributeText_of_testText v.name v.nameLower
    exact ⟨front, _, text, attributeValue_attributeText amp quot c.value back⟩

end Reading

/-- Some of the names of HTML, most of which are read without a semicolon too. -/
def usualNames : Text.Vocabulary where
  value? name := ([("amp", "&"), ("apos", "'"), ("gt", ">"), ("lt", "<"), ("not", "¬"),
    ("notin", "∉"), ("quot", "\"")].find? fun (n, _) => n.toList = name).map (·.2.toList)
  isOpen name := ["amp", "gt", "lt", "not", "quot"].any fun n => n.toList = name

/-- A text that HTML would read as another one, if it stood in an attribute as it is. -/
theorem attributes_read_back_nested :
    usualNames.value? "amp".toList = some ['&'] ∧ usualNames.value? "quot".toList = some ['"'] ∧
    Text.decoded usualNames.reading "&quot &#x41;&lt=&notin;".toList = "\" A&lt=∉".toList ∧
    attributeText "&quot &#x41;&lt=&notin;" = "&amp;quot &amp;#x41;&amp;lt=&amp;notin;" ∧
    Text.decoded usualNames.reading (attributeText "&quot &#x41;&lt=&notin;").toList =
      "&quot &#x41;&lt=&notin;".toList := by
  have amp : usualNames.value? "amp".toList = some ['&'] := by decide +kernel
  have quot : usualNames.value? "quot".toList = some ['"'] := by decide +kernel
  refine ⟨amp, quot, ?read, by decide +kernel, ?back⟩
  case read => decide +kernel
  case back => exact ((attributes_read_back amp quot).1 _).2.2

end PropForge
