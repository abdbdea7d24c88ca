import PropForge.Template.Bundled.Phrases

/-!
The templates of the files that every framework shares.
-/

namespace PropForge.Template.Bundled

/-- The props of a component as an interface, by section. -/
def propsInterface : List Piece := [
  .text "export interface ",
  .output (view "component_name"),
  .text "Props \x7b\n",
  each "section" (view "prop_sections") [
      .branch (.negation (part "loop" "first")) [
          .text "\n"] [],
      .text "  // ",
      .output (part "section" "title"),
      .text "\n",
      each "prop" (part "section" "props") [
          .branch (part "prop" "description") [
              .text "  /** ",
              .output (via "doc_comment" (part "prop" "description")),
              .text " */\n"] [],
          .text "  ",
          .output (via "prop_key" (part "prop" "name")),
          .output (.choose (part "prop" "required") (.text "") (some (.text "?")) 1),
          .text ": ",
          .output (part "prop" "type"),
          .text ";\n"]],
  .text "\x7d\n"]

/-- Each variant as the union of its values. -/
def variantTypes : List Piece := [
  each "variant" (view "variants") [
      .text "export type ",
      .output (part "variant" "name"),
      .text " = ",
      .output (.choose (part "variant" "values")
        (joined " | " (mapped "ts_literal" (part "variant" "values"))) (some (.text "never")) 1),
      .text ";\n"]]

/-- The interface and the variant types in a file of their own. -/
def types : List Piece := [
  .text "// Generated TypeScript types for ",
  .output (view "component_name"),
  .text " component\n",
  .text "\n",
  .insert "shared/props_interface.ts.j2",
  .branch (view "variants") [
      .text "\n",
      .insert "shared/variant_types.ts.j2"] []]

/-- The declarations that go with a stored schema. -/
def schemaTypes : List Piece := [
  .text "// Generated TypeScript types for ",
  .output (view "component_name"),
  .text " component\n",
  .text "\n",
  .text "export interface ",
  .output (view "component_name"),
  .text "Props \x7b\n",
  each "prop" (view "props") [
      .branch (part "prop" "description") [
          .text "  /** ",
          .output (via "doc_comment" (part "prop" "description")),
          .text " */\n"] [],
      .text "  ",
      .output (via "prop_key" (part "prop" "name")),
      .output (.choose (part "prop" "required") (.text "") (some (.text "?")) 1),
      .text ": ",
      .output (part "prop" "type"),
      .text ";\n"],
  .text "\x7d\n",
  .text "\n",
  .branch (view "variants") [
      .insert "shared/variant_types.ts.j2",
      .text "\n"] [],
  .branch (view "events") [
      .text "export interface ",
      .output (view "component_name"),
      .text "Events \x7b\n",
      each "event" (view "events") [
          .text "  ",
          .output (via "prop_key" (part "event" "name")),
          .text ": ",
          .output (part "event" "signature"),
          .text ";\n"],
      .text "\x7d\n",
      .text "\n"] [],
  .text "export interface ",
  .output (view "component_name"),
  .text "Model \x7b\n",
  .text "  type: \"",
  .output (view "component_type"),
  .text "\";\n",
  .text "  forwardRef: ",
  .output (.choose (view "forward_ref") (.text "true") (some (.text "false")) 1),
  .text ";\n",
  .text "  hooks: string[];\n",
  .text "  imports: Array<\x7b source: string; names: string[] \x7d>;\n",
  .text "\x7d\n",
  .branch (.either (view "state") (view "effects")) [
      .text "\n",
      .text "export interface ",
      .output (view "component_name"),
      .text "State \x7b\n",
      each "item" (view "state") [
          .text "  ",
          .output (part "item" "name"),
          .text ": ",
          .output (part "item" "type"),
          .text ";\n"],
      .text "\x7d\n"] []]

/-- Tests that render the component, once for each value of a variant. -/
def tests : List Piece := [
  .text "import \x7b render, screen \x7d from \"@testing-library/react\";\n",
  .text "import \x7b ",
  .output (view "component_name"),
  .text " \x7d from \"./",
  .output (view "component_name_lower"),
  .text "\";\n",
  .text "\n",
  .text "describe(\"",
  .output (view "component_name"),
  .text "\", () => \x7b\n",
  .text "  it(\"renders without crashing\", () => \x7b\n",
  .text "    render(<",
  .output (view "component_name"),
  .text ">Test content</",
  .output (view "component_name"),
  .text ">);\n",
  .text "    expect(screen.getByText(\"Test content\")).toBeInTheDocument();\n",
  .text "  \x7d);\n",
  .text "\n",
  .text "  it(\"applies custom className\", () => \x7b\n",
  .text "    render(<",
  .output (view "component_name"),
  .text " className=\"custom-class\">Test</",
  .output (view "component_name"),
  .text ">);\n",
  .text "    expect(screen.getByText(\"Test\")).toHaveClass(\"custom-class\");\n",
  .text "  \x7d);\n",
  each "case" (view "variant_cases") [
      .text "\n",
      .text "  it(\"renders with ",
      .output (via "js_string" (part "case" "prop_name")),
      .text " variant '",
      .output (via "js_string" (part "case" "value")),
      .text "'\", () => \x7b\n",
      .text "    render(<",
      .output (view "component_name"),
      .text " ",
      .output (part "case" "prop_name"),
      .text "=\"",
      .output (via "jsx_attr" (part "case" "value")),
      .text "\">Test</",
      .output (view "component_name"),
      .text ">);\n",
      .text "    expect(screen.getByText(\"Test\")).toHaveClass(\"",
      .output (.name "css_prefix"),
      .output (view "component_name_lower"),
      .text "--",
      .output (via "js_string" (part "case" "value")),
      .text "\");\n",
      .text "  \x7d);\n"],
  .text "\x7d);\n"]

/-- Stories, one for each value of a variant. -/
def stories : List Piece := [
  .text "import type \x7b Meta, StoryObj \x7d from \"@storybook/react\";\n",
  .text "import \x7b ",
  .output (view "component_name"),
  .text " \x7d from \"./",
  .output (view "component_name_lower"),
  .text "\";\n",
  .text "\n",
  .text "const meta: Meta<typeof ",
  .output (view "component_name"),
  .text "> = \x7b\n",
  .text "  title: \"PatternFly/",
  .output (view "component_name"),
  .text "\",\n",
  .text "  component: ",
  .output (view "component_name"),
  .text ",\n",
  .text "  parameters: \x7b\n",
  .text "    layout: \"centered\",\n",
  .text "  \x7d,\n",
  .text "  tags: [\"autodocs\"],\n",
  .text "  argTypes: \x7b\n",
  each "prop" (view "props") [
      .text "    ",
      .output (via "prop_key" (part "prop" "name")),
      .text ": \x7b\n",
      .text "      control: \x7b type: \"",
      .output (via "control_type" (part "prop" "type")),
      .text "\" \x7d,\n",
      .branch (part "prop" "description") [
          .text "      description: \"",
          .output (via "js_string" (part "prop" "description")),
          .text "\",\n"] [],
      .text "    \x7d,\n"],
  .text "  \x7d,\n",
  .text "\x7d;\n",
  .text "\n",
  .text "export default meta;\n",
  .text "type Story = StoryObj<typeof meta>;\n",
  .text "\n",
  .text "export const Default: Story = \x7b\n",
  .text "  args: \x7b\n",
  .text "    children: \"Default ",
  .output (view "component_name"),
  .text "\",\n",
  .text "  \x7d,\n",
  .text "\x7d;\n",
  each "case" (view "variant_cases") [
      .text "\n",
      .text "export const ",
      .output (part "case" "story_name"),
      .text ": Story = \x7b\n",
      .text "  args: \x7b\n",
      .text "    children: \"",
      .output (via "js_string" (via "upper_first" (part "case" "value"))),
      .text " ",
      .output (view "component_name"),
      .text "\",\n",
      .text "    ",
      .output (via "prop_key" (part "case" "prop_name")),
      .text ": \"",
      .output (via "js_string" (part "case" "value")),
      .text "\",\n",
      .text "  \x7d,\n",
      .text "\x7d;\n"]]

/-- The reference page of a component. -/
def documentation : List Piece := [
  .text "# ",
  .output (view "component_name"),
  .text " Component\n",
  .text "\n",
  .text "A PatternFly ",
  .output (view "component_name"),
  .text " component for ",
  .output (.name "framework_label"),
  .text " applications.\n",
  .text "\n",
  .text "## Props\n",
  .text "\n",
  .text "| Name | Type | Required | Description |\n",
  .text "|------|------|----------|-------------|\n",
  each "prop" (view "props") [
      .text "| ",
      .output (via "md_cell" (part "prop" "name")),
      .text " | ",
      .output (via "md_cell" (part "prop" "type")),
      .text " | ",
      .output (.choose (part "prop" "required") (.text "Yes") (some (.text "No")) 1),
      .text " | ",
      .output (via "md_cell" (.either (part "prop" "description") (.text "No description"))),
      .text " |\n"],
  .branch (view "variants") [
      .text "\n",
      .text "## Variants\n",
      each "variant" (view "variants") [
          .text "\n",
          .text "### ",
          .output (part "variant" "name"),
          .text "\n",
          .text "\n",
          .text "Available values: ",
          .output (joined ", " (part "variant" "values")),
          .text "\n"]] [],
  .branch (view "events") [
      .text "\n",
      .text "## Events\n",
      .text "\n",
      .text "| Name | Signature | Description |\n",
      .text "|------|-----------|-------------|\n",
      each "event" (view "events") [
          .text "| ",
          .output (via "md_cell" (part "event" "name")),
          .text " | ",
          .output (via "md_cell" (part "event" "signature")),
          .text " | ",
          .output (.choose (part "event" "inherited") (.text "Inherited from React.HTMLProps")
            (some (.text "Custom event")) 1),
          .text " |\n"]] [],
  .text "\n",
  .text "## Usage Examples\n",
  .text "\n",
  .text "```tsx\n",
  .text "import \x7b ",
  .output (view "component_name"),
  .text " \x7d from \"./",
  .output (view "component_name_lower"),
  .text "\";\n",
  .text "\n",
  .text "function MyComponent() \x7b\n",
  .text "  return (\n",
  .text "    <",
  .output (view "component_name"),
  .text ">\n",
  .text "      Hello World\n",
  .text "    </",
  .output (view "component_name"),
  .text ">\n",
  .text "  );\n",
  .text "\x7d\n",
  .text "```\n"]

/-- A style sheet for the component. -/
def styles : List Piece := [
  .text ".",
  .output (view "component_name_lower"),
  .text " \x7b\n",
  .text "  /* PatternFly ",
  .output (view "component_name_lower"),
  .text " styles */\n",
  .text "\x7d\n"]

end PropForge.Template.Bundled
