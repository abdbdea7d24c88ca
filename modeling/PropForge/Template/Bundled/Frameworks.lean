import PropForge.Template.Bundled.Phrases

/-!
The templates of the files that differ from framework to framework.
-/

namespace PropForge.Template.Bundled

/-- The component for Next.js. -/
def reactComponent : List Piece := [
  .text "\"use client\";\n",
  .text "\n",
  .text "import \x7b ",
  .output (joined ", " (view "react_imports")),
  .text " \x7d from \"react\";\n",
  .text "import \x7b css \x7d from \"@patternfly/react-styles\";\n",
  .text "import styles from \"@patternfly/react-styles/css/components/",
  .output (view "component_name"),
  .text "/",
  .output (view "component_name_lower"),
  .text "\";\n",
  .branch (view "custom_hooks") [
      .text "import \x7b ",
      .output (joined ", " (picked "name" (view "custom_hooks"))),
      .text " \x7d from \"../../helpers\";\n"] [],
  .branch (.field (view "patterns") "ouia") [
      .text "import \x7b useOUIAProps \x7d from \"../../helpers/OUIA\";\n"] [],
  .text "\n",
  .insert "shared/props_interface.ts.j2",
  .branch (view "variants") [
      .text "\n",
      .insert "shared/variant_types.ts.j2"] [],
  .text "\n",
  .text "export const ",
  .output (view "component_name"),
  .text " = forwardRef<HTMLDivElement, ",
  .output (view "component_name"),
  .text "Props>((\x7b\n",
  each "section" (view "prop_sections") [
      .text "  // ",
      .output (part "section" "title"),
      .text "\n",
      each "prop" (part "section" "props") [
          .text "  ",
          .output (via "destructure" (part "prop" "name")),
          .text ",\n"]],
  .text "  ...props\n",
  .text "\x7d, ref) => \x7b\n",
  .branch (.field (view "patterns") "ouia") [
      .text "\n",
      .text "  // OUIA props for accessibility\n",
      .text "  const ouiaProps = useOUIAProps(\"",
      .output (view "component_name"),
      .text "\", ",
      .output (.item (view "ouia_args") (.number 0)),
      .text ", ",
      .output (.item (view "ouia_args") (.number 1)),
      .text ");\n"] [],
  .branch (view "custom_hooks") [
      .text "\n",
      .text "  // Custom hooks\n",
      each "hook" (view "custom_hooks") [
          .text "  const ",
          .output (part "hook" "result"),
          .text " = ",
          .output (part "hook" "name"),
          .text "();\n"]] [],
  .branch (view "state") [
      .text "\n",
      .text "  // State management\n",
      each "item" (view "state") [
          .text "  const [",
          .output (part "item" "name"),
          .text ", set",
          .output (via "upper_first" (part "item" "name")),
          .text "] = useState<",
          .output (part "item" "type"),
          .text ">(",
          .output (.either (part "item" "default_value") (.text "")),
          .text ");\n"]] [],
  .branch (view "effects") [
      .text "\n",
      .text "  // Effects\n",
      each "effect" (view "effects") [
          .text "  useEffect(() => \x7b\n",
          .text "    // ",
          .output (part "effect" "name"),
          .text " logic\n",
          .text "  \x7d, [",
          .output (joined ", " (part "effect" "dependencies")),
          .text "]);\n"]] [],
  .text "\n",
  .text "  // CSS classes\n",
  .text "  const cssClasses = css(\n",
  .text "    styles.",
  .output (view "styles_key"),
  .text ",\n",
  .loop "binding" (view "variant_bindings") (some (part "binding" "matched")) [
      .text "    ",
      .output (part "binding" "local"),
      .text " && styles.modifiers[",
      .output (part "binding" "local"),
      .text "],\n"] [],
  each "modifier" (view "modifiers") [
      .text "    ",
      .output (part "modifier" "local"),
      .text " && styles.modifiers.",
      .output (part "modifier" "modifier"),
      .text ",\n"],
  .branch (view "has_class_name") [
      .text "    className\n"] [],
  .text "  );\n",
  .text "\n",
  .text "  return (\n",
  .text "    <div\n",
  .text "      ref=\x7bref\x7d\n",
  .text "      className=\x7bcssClasses\x7d\n",
  .branch (.field (view "patterns") "ouia") [
      .text "      \x7b...ouiaProps\x7d\n"] [],
  .text "      \x7b...props\x7d\n",
  .branch (view "has_children") [
      .text "    >\n",
      .text "      \x7bchildren\x7d\n",
      .text "    </div>\n"] [
      .text "    />\n"],
  .text "  );\n",
  .text "\x7d);\n",
  .text "\n",
  .output (view "component_name"),
  .text ".displayName = \"",
  .output (view "component_name"),
  .text "\";\n"]

/-- The settings of a Next.js project. -/
def reactConfig : List Piece := [
  .text "/** @type \x7bimport('next').NextConfig\x7d */\n",
  .text "const nextConfig = \x7b\n",
  .text "  experimental: \x7b\n",
  .text "    appDir: true,\n",
  .text "  \x7d,\n",
  .text "  // PatternFly CSS support\n",
  .text "  webpack: (config) => \x7b\n",
  .text "    config.module.rules.push(\x7b\n",
  .text "      test: /\\.css$/,\n",
  .text "      use: [\"style-loader\", \"css-loader\"],\n",
  .text "    \x7d);\n",
  .text "    return config;\n",
  .text "  \x7d,\n",
  .text "\x7d;\n",
  .text "\n",
  .text "module.exports = nextConfig;\n"]

/-- The component for Vue. -/
def vueComponent : List Piece := [
  .text "<!-- Vue template for ",
  .output (view "component_name"),
  .text " -->\n",
  .text "<template>\n",
  .text "  <div class=\"",
  .output (view "component_name_lower"),
  .text "\">\n",
  .text "    <slot />\n",
  .text "  </div>\n",
  .text "</template>\n",
  .text "\n",
  .text "<script setup lang=\"ts\">\n",
  .text "// Vue component logic for ",
  .output (view "component_name"),
  .text "\n",
  .text "</script>\n"]

/-- The settings of a Vue project. -/
def vueConfig : List Piece := [
  .text "module.exports = \x7b\n",
  .text "  // Vue configuration for PatternFly components\n",
  .text "\x7d;\n"]

/-- The component for Svelte. -/
def svelteComponent : List Piece := [
  .text "<!-- Svelte template for ",
  .output (view "component_name"),
  .text " -->\n",
  .text "<div class=\"",
  .output (view "component_name_lower"),
  .text "\">\n",
  .text "  <slot />\n",
  .text "</div>\n",
  .text "\n",
  .text "<script lang=\"ts\">\n",
  .text "// Svelte component logic for ",
  .output (view "component_name"),
  .text "\n",
  .text "</script>\n"]

/-- The settings of a Svelte project. -/
def svelteConfig : List Piece := [
  .text "import \x7b vitePreprocess \x7d from \"@sveltejs/vite-plugin-svelte\";\n",
  .text "\n",
  .text "export default \x7b\n",
  .text "  preprocess: vitePreprocess(),\n",
  .text "  // Svelte configuration for PatternFly components\n",
  .text "\x7d;\n"]

end PropForge.Template.Bundled
