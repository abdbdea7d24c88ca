import PropForge.Component.Exposed
import PropForge.Component.Generation
import PropForge.Proofs.Assoc
import PropForge.Template.Library

/-!
# Templates that cannot fail

A template fails where a value is not what it expects. Shapes say what may be expected of a value,
and an expression has a shape only if it expects no more:

* `eval_of_shape?`: an expression that has a shape has a value of this shape;
* `renderPieces_of_renders`, `render_of_renders`: pieces whose expressions have shapes have a text;
* `Generator.render_bundled`: the bundled templates render every part of every component.
-/

namespace PropForge

namespace Template

/-- What is promised of a value. In any case it is there. -/
inductive Shape where
  | any
  | text
  | list (items : Shape)
  /-- Two texts. -/
  | pair
  | record (fields : List (String × Shape))

mutual

/-- A value keeps what its shape promises. -/
def Shape.Fits (σ : Shape) (v : Value) : Prop :=
  match σ with
  | .any => v.required = .ok v
  | .text => ∃ s, v = .text s
  | .list σ => ∃ items, v = .list items ∧ ∀ w ∈ items, σ.Fits w
  | .pair => ∃ s t, v = .tuple [.text s, .text t]
  | .record fields => v.required = .ok v ∧ FieldsFit fields v

def FieldsFit (fields : List (String × Shape)) (v : Value) : Prop :=
  match fields with
  | [] => True
  | (name, σ) :: rest => σ.Fits (v.field name) ∧ FieldsFit rest v

end

section Values

variable {v : Value} {σ : Shape}

theorem Shape.Fits.required (h : σ.Fits v) : v.required = .ok v := by
  cases σ with
  | any => exact h
  | text => obtain ⟨s, rfl⟩ := h; rfl
  | list σ => obtain ⟨items, rfl, -⟩ := h; rfl
  | pair => obtain ⟨s, t, rfl⟩ := h; rfl
  | record fields => exact h.1

theorem Shape.Fits.any (h : σ.Fits v) : Shape.any.Fits v := h.required

theorem Shape.Fits.truthy (h : σ.Fits v) : ∃ b, v.truthy = .ok b := by
  have there := h.required
  cases v with
  | missing m => cases there
  | _ => exact ⟨_, rfl⟩

theorem FieldsFit.get? {fields : List (String × Shape)} {name : String}
    (h : FieldsFit fields v) (found : Assoc.get? name fields = some σ) : σ.Fits (v.field name) := by
  induction fields with
  | nil => cases found
  | cons f rest ih =>
    obtain ⟨n, τ⟩ := f
    rw [Assoc.get?] at found
    split at found
    · rename_i same
      cases found
      rw [← same]
      exact h.1
    · exact ih h.2 found

end Values

section Lists

variable {α β : Type} {f : α → Except Error β} {P : β → Prop}

theorem mapM_of_all {items : List α} (h : ∀ a ∈ items, ∃ b, f a = .ok b ∧ P b) :
    ∃ bs, items.mapM f = .ok bs ∧ ∀ b ∈ bs, P b := by
  induction items with
  | nil => exact ⟨[], rfl, fun _ hb => by cases hb⟩
  | cons a rest ih =>
    obtain ⟨⟨b, hb, pb⟩, hrest⟩ := List.forall_mem_cons.mp h
    obtain ⟨bs, hbs, pbs⟩ := ih hrest
    refine ⟨b :: bs, ?_, List.forall_mem_cons.mpr ⟨pb, pbs⟩⟩
    rw [List.mapM_cons, hb, hbs]
    rfl

theorem filterM_of_all {p : α → Except Error Bool} {items : List α}
    (h : ∀ a ∈ items, ∃ b, p a = .ok b) : ∃ kept, items.filterM p = .ok kept ∧ kept ⊆ items := by
  have walk : ∀ items acc : List α, (∀ a ∈ items, ∃ b, p a = .ok b) →
      ∃ kept, items.filterAuxM p acc = .ok kept ∧ kept ⊆ acc ++ items := by
    intro items
    induction items with
    | nil => exact fun acc _ => ⟨acc, rfl, by simp⟩
    | cons a rest ih =>
      intro acc h
      obtain ⟨⟨b, hb⟩, hrest⟩ := List.forall_mem_cons.mp h
      obtain ⟨kept, hkept, sub⟩ := ih (cond b (a :: acc) acc) hrest
      refine ⟨kept, ?_, fun x hx => ?_⟩
      · rw [List.filterAuxM, hb]
        exact hkept
      · have place := sub hx
        cases b <;> simp at place ⊢ <;> tauto
  obtain ⟨kept, hkept, sub⟩ := walk items [] h
  refine ⟨kept.reverse, ?_, fun x hx => sub (List.mem_reverse.mp hx)⟩
  rw [List.filterM, hkept]
  rfl

end Lists

section Filters

/-- The shape of what a filter makes of a value, if it takes values of this shape. -/
def Shape.filtered? (σ : Shape) (name : String) (arguments : List Expr)
    (named : List (String × Expr)) : Option Shape :=
  if name = "join" then
    match σ, arguments, named with
    | .list _, [.text _], [] => some .text
    | _, _, _ => none
  else if name = "map" then
    match σ, arguments, named with
    | .list .text, [.text f], [] => (filter? f).map fun _ => .list .text
    | .list (.record fields), [], [(key, .text path)] =>
      if key = "attribute" ∧ Text.splitOn (· = '.') path.toList = [path.toList] then
        (Assoc.get? path fields).map .list
      else none
    | _, _, _ => none
  else
    match filter? name, arguments, named with
    | some f, [], [] =>
      match σ, f.nonText with
      | .text, _ => some .text
      | _, .printed => some .text
      | _, _ => none
    | _, _, _ => none

variable {v : Value} {σ τ : Shape}

theorem apply_text (f : Filter) (s : String) : f.apply (.text s) = .ok (.text (f.run s)) := rfl

theorem apply_printed {f : Filter} (printed : f.nonText = .printed) (h : σ.Fits v) :
    ∃ s, f.apply v = .ok (.text s) := by
  have there := h.required
  unfold Filter.apply
  cases v with
  | missing m => cases there
  | _ =>
    rw [printed]
    exact ⟨_, rfl⟩

theorem joined_of_fits (separator : String) {items : List Value} (h : ∀ w ∈ items, σ.Fits w) :
    ∃ s, joined separator items = .ok (.text s) := by
  obtain ⟨texts, made, -⟩ := mapM_of_all (f := fun v : Value => do return (← v.required).print)
    (P := fun _ => True) fun w hw => ⟨w.print, by rw [(h w hw).required]; rfl, trivial⟩
  refine ⟨separator.intercalate texts, ?_⟩
  rw [joined, made]
  rfl

/-- A field of a path without dots. -/
theorem fieldPath_of_plain {path : String}
    (plain : Text.splitOn (· = '.') path.toList = [path.toList]) :
    fieldPath path v = v.field path := by
  rw [fieldPath, plain, List.foldl_cons, List.foldl_nil, String.ofList_toList]

/-- The texts of a list under a filter on texts. -/
theorem applyFilter_map {f : String} {g : Filter} {items : List Value} (found : filter? f = some g)
    (all : ∀ w ∈ items, Shape.text.Fits w) :
    ∃ texts, applyFilter "map" (.list items) [.text f] [] = .ok (.list texts) ∧
      ∀ w ∈ texts, Shape.text.Fits w := by
  obtain ⟨texts, made, each⟩ := mapM_of_all (f := g.apply) (P := Shape.text.Fits) fun w hw => by
    obtain ⟨s, rfl⟩ := all w hw
    exact ⟨_, apply_text g s, _, rfl⟩
  refine ⟨texts, ?_, each⟩
  unfold applyFilter
  dsimp only [Value.items, bind, Except.bind]
  rw [found]
  dsimp only
  rw [made]
  rfl

/-- A filter on texts, called by its own name. -/
theorem applyFilter_of_filter? {name : String} {f : Filter} (notJoin : name ≠ "join")
    (notMap : name ≠ "map") (found : filter? name = some f) (v : Value) :
    applyFilter name v [] [] = f.apply v := by
  unfold applyFilter
  split
  · exact absurd rfl notJoin
  · exact absurd rfl notMap
  · rw [found]

/-- **A filter** that takes values of a shape succeeds on each of them. -/
theorem applyFilter_of_filtered? {template : String} {scope : Scope} {name : String}
    {arguments : List Expr} {named : List (String × Expr)} (fits : σ.Fits v)
    (h : σ.filtered? name arguments named = some τ) :
    ∃ as ns w, evalAll template scope arguments = .ok as ∧
      evalNamed template scope named = .ok ns ∧ applyFilter name v as ns = .ok w ∧ τ.Fits w := by
  unfold Shape.filtered? at h
  split at h
  · rename_i join
    subst join
    split at h
    · cases h
      rename_i σ separator
      obtain ⟨items, rfl, all⟩ := fits
      obtain ⟨s, made⟩ := joined_of_fits separator all
      exact ⟨[.text separator], [], .text s, rfl, rfl, made, s, rfl⟩
    · cases h
  split at h
  · rename_i map
    subst map
    split at h
    · rename_i f
      obtain ⟨g, found, rfl⟩ := Option.map_eq_some_iff.mp h
      obtain ⟨items, rfl, all⟩ := fits
      obtain ⟨texts, made, each⟩ := applyFilter_map found all
      exact ⟨[.text f], [], .list texts, rfl, rfl, made, texts, rfl, each⟩
    · rename_i fields key path
      split at h
      · rename_i plain
        obtain ⟨rfl, plain⟩ := plain
        obtain ⟨τ, found, rfl⟩ := Option.map_eq_some_iff.mp h
        obtain ⟨items, rfl, all⟩ := fits
        refine ⟨[], [("attribute", .text path)], .list (items.map (fieldPath path)), rfl, rfl, rfl, _,
          rfl, fun w hw => ?_⟩
        obtain ⟨r, hr, rfl⟩ := List.mem_map.mp hw
        rw [fieldPath_of_plain plain]
        exact (all r hr).2.get? found
      · cases h
    · cases h
  rename_i notJoin notMap
  split at h
  · rename_i f found
    have applied := applyFilter_of_filter? notJoin notMap found v
    split at h
    · cases h
      obtain ⟨s, rfl⟩ := fits
      exact ⟨[], [], _, rfl, rfl, applied.trans (apply_text f s), _, rfl⟩
    · rename_i printed
      cases h
      obtain ⟨s, made⟩ := apply_printed printed fits
      exact ⟨[], [], _, rfl, rfl, applied.trans made, _, rfl⟩
    · cases h
  · cases h

end Filters

section Expressions

/-- The shape of what an expression gives where names have shapes, if it cannot fail. -/
def Expr.shape? (Γ : List (String × Shape)) (e : Expr) : Option Shape :=
  match e with
  | .name n => Assoc.get? n Γ
  | .text _ => some .text
  | .field owner last =>
    match owner.shape? Γ with
    | some (.record fields) => Assoc.get? last fields
    | _ => none
  | .item owner (.number n) =>
    match owner.shape? Γ with
    | some .pair => if n < 2 then some .text else none
    | _ => none
  | .filter value f arguments named => do
    (← value.shape? Γ).filtered? f arguments named
  | .choose test yes (some no) _ => do
    let _ ← test.shape? Γ
    let _ ← yes.shape? Γ
    let _ ← no.shape? Γ
    return .any
  | .either first second => do
    let _ ← first.shape? Γ
    let _ ← second.shape? Γ
    return .any
  | .negation value => do
    let _ ← value.shape? Γ
    return .any
  | _ => none

/-- Names have values of their shapes. -/
def Fit (Γ : List (String × Shape)) (scope : Scope) : Prop :=
  ∀ n σ, Assoc.get? n Γ = some σ → σ.Fits (lookup scope n)

variable {Γ : List (String × Shape)} {scope : Scope} {template : String} {σ : Shape}

theorem fit_nil (scope : Scope) : Fit [] scope := nofun

theorem Fit.bind (fit : Fit Γ scope) {v : Value} (name : String) (h : σ.Fits v) :
    Fit ((name, σ) :: Γ) ((name, v) :: scope) := by
  intro n τ found
  rw [Assoc.get?] at found
  by_cases same : name = n
  · rw [if_pos same] at found
    cases found
    simpa [lookup, same] using h
  · rw [if_neg same] at found
    simpa [lookup, same] using fit n τ found

/-- **An expression that has a shape** has a value, which fits it. -/
theorem eval_of_shape? (fit : Fit Γ scope) (e : Expr) (h : e.shape? Γ = some σ) :
    ∃ v, eval template scope e = .ok v ∧ σ.Fits v := by
  fun_induction Expr.shape? Γ e generalizing σ with
  | case1 n => exact ⟨_, rfl, fit n σ h⟩
  | case2 s =>
    cases h
    exact ⟨_, rfl, s, rfl⟩
  | case3 owner last fields shape ih =>
    obtain ⟨v, hv, there, fields⟩ := ih shape
    refine ⟨v.field last, ?_, fields.get? h⟩
    rw [eval, hv]
    exact congrArg (· >>= fun w => pure (w.field last)) there
  | case5 owner n shape low ih =>
    cases h
    obtain ⟨v, hv, s, t, rfl⟩ := ih shape
    have pair : ∃ u, (Value.tuple [.text s, .text t]).item n = .text u := by
      obtain rfl | rfl : n = 0 ∨ n = 1 := by omega
      · exact ⟨s, rfl⟩
      · exact ⟨t, rfl⟩
    obtain ⟨u, found⟩ := pair
    refine ⟨.text u, ?_, u, rfl⟩
    rw [eval, hv, ← found]
    rfl
  | case8 value f arguments named ih =>
    obtain ⟨τ, shape, filtered⟩ := Option.bind_eq_some_iff.mp h
    obtain ⟨v, hv, fits⟩ := ih shape
    obtain ⟨as, ns, w, has, hns, applied, fits'⟩ := applyFilter_of_filtered? fits filtered
    refine ⟨w, ?_, fits'⟩
    rw [eval, hv, has, hns]
    exact applied
  | case9 test yes no line iht ihy ihn =>
    obtain ⟨τ₁, shape₁, h⟩ := Option.bind_eq_some_iff.mp h
    obtain ⟨τ₂, shape₂, h⟩ := Option.bind_eq_some_iff.mp h
    obtain ⟨τ₃, shape₃, h⟩ := Option.bind_eq_some_iff.mp h
    cases h
    obtain ⟨v, hv, fits⟩ := iht shape₁
    obtain ⟨w, hw, fits₂⟩ := ihy shape₂
    obtain ⟨u, hu, fits₃⟩ := ihn shape₃
    obtain ⟨b, hb⟩ := fits.truthy
    rw [eval, hv]
    dsimp only [bind, Except.bind]
    rw [hb]
    cases b with
    | true => exact ⟨w, hw, fits₂.any⟩
    | false => exact ⟨u, hu, fits₃.any⟩
  | case10 first second ihf ihs =>
    obtain ⟨τ₁, shape₁, h⟩ := Option.bind_eq_some_iff.mp h
    obtain ⟨τ₂, shape₂, h⟩ := Option.bind_eq_some_iff.mp h
    cases h
    obtain ⟨v, hv, fits⟩ := ihf shape₁
    obtain ⟨w, hw, fits₂⟩ := ihs shape₂
    obtain ⟨b, hb⟩ := fits.truthy
    rw [eval, hv]
    dsimp only [bind, Except.bind]
    rw [hb]
    cases b with
    | true => exact ⟨v, rfl, fits.any⟩
    | false => exact ⟨w, hw, fits₂.any⟩
  | case11 value ih =>
    obtain ⟨τ, shape, h⟩ := Option.bind_eq_some_iff.mp h
    cases h
    obtain ⟨v, hv, fits⟩ := ih shape
    obtain ⟨b, hb⟩ := fits.truthy
    refine ⟨.flag !b, ?_, rfl⟩
    rw [eval, hv]
    dsimp only [bind, Except.bind]
    rw [hb]
    rfl
  | case4 | case6 | case7 | case12 => cases h

end Expressions

section Pieces

/-- What a loop knows about its turn. -/
def turnShape : Shape :=
  .record [("index", .any), ("index0", .any), ("first", .any), ("last", .any), ("length", .any)]

theorem fits_turn (index length : Nat) : turnShape.Fits (turn index length) :=
  ⟨rfl, rfl, rfl, rfl, rfl, rfl, trivial⟩

mutual

/-- Whether a piece cannot fail where names have shapes and the templates that `inserts` allows
cannot. Inside a loop none is inserted. -/
def Piece.renders (Γ : List (String × Shape)) (inserts : String → Bool) (piece : Piece) : Bool :=
  match piece with
  | .text _ => true
  | .output e => (e.shape? Γ).isSome
  | .branch test yes no =>
    (test.shape? Γ).isSome && piecesRender Γ inserts yes && piecesRender Γ inserts no
  | .loop target items test body otherwise =>
    match items.shape? Γ with
    | some (.list σ) =>
      test.all (fun e => (e.shape? ((target, σ) :: Γ)).isSome) &&
        piecesRender ((target, σ) :: ("loop", turnShape) :: Γ) (fun _ => false) body &&
        piecesRender Γ inserts otherwise
    | _ => false
  | .insert name => inserts name

def piecesRender (Γ : List (String × Shape)) (inserts : String → Bool) (pieces : List Piece) :
    Bool :=
  match pieces with
  | [] => true
  | piece :: rest => piece.renders Γ inserts && piecesRender Γ inserts rest

end

variable {Γ : List (String × Shape)} {scope : Scope} {template : String} {σ : Shape}
  {insert : String → Scope → Except Error String} {inserts : String → Bool}

theorem selected_of_shape? (fit : Fit Γ scope) {target : String} {test : Option Expr}
    (h : test.all (fun e => (e.shape? ((target, σ) :: Γ)).isSome) = true) {items : List Value}
    (all : ∀ w ∈ items, σ.Fits w) :
    ∃ kept, selected template scope target test items = .ok kept ∧ ∀ w ∈ kept, σ.Fits w := by
  cases test with
  | none => exact ⟨items, rfl, all⟩
  | some test =>
    obtain ⟨τ, shape⟩ := Option.isSome_iff_exists.mp h
    have passes (w : Value) (hw : w ∈ items) : ∃ b,
        (do (← eval template ((target, w) :: scope) test).truthy) = Except.ok b := by
      obtain ⟨v, hv, fits⟩ := eval_of_shape? (fit.bind target (all w hw)) test shape
      obtain ⟨b, hb⟩ := fits.truthy
      exact ⟨b, by rw [hv]; exact hb⟩
    obtain ⟨kept, filtered, sub⟩ := filterM_of_all passes
    exact ⟨kept, filtered, fun w hw => all w (sub hw)⟩

theorem eachTurn_of_all {body : Scope → Except Error String} {target : String} {items : List Value}
    (h : ∀ w ∈ items, ∀ t, turnShape.Fits t →
      ∃ text, body ((target, w) :: ("loop", t) :: scope) = .ok text) (length index : Nat) :
    ∃ text, eachTurn body scope target length index items = .ok text := by
  induction items generalizing index with
  | nil => exact ⟨_, rfl⟩
  | cons w rest ih =>
    obtain ⟨front, hrest⟩ := List.forall_mem_cons.mp h
    obtain ⟨text, here⟩ := front _ (fits_turn index length)
    obtain ⟨more, there⟩ := ih hrest (index + 1)
    refine ⟨text ++ more, ?_⟩
    rw [eachTurn, here, there]
    rfl

mutual

/-- A piece that cannot fail has a text. -/
theorem renderPiece_of_renders {Γ : List (String × Shape)} {scope : Scope} {inserts : String → Bool}
    (inserted : ∀ name, inserts name = true → ∃ text, insert name scope = .ok text)
    (fit : Fit Γ scope) (piece : Piece) (h : piece.renders Γ inserts = true) :
    ∃ text, renderPiece insert template piece scope = .ok text := by
  cases piece with
  | text s => exact ⟨s, rfl⟩
  | output e =>
    obtain ⟨σ, shape⟩ := Option.isSome_iff_exists.mp h
    obtain ⟨v, hv, fits⟩ := eval_of_shape? fit e shape
    refine ⟨v.print, ?_⟩
    rw [renderPiece, hv]
    exact congrArg (· >>= fun w => pure w.print) fits.required
  | branch test yes no =>
    obtain ⟨front, hn⟩ := Bool.and_eq_true_iff.mp h
    obtain ⟨ht, hy⟩ := Bool.and_eq_true_iff.mp front
    obtain ⟨σ, shape⟩ := Option.isSome_iff_exists.mp ht
    obtain ⟨v, hv, fits⟩ := eval_of_shape? fit test shape
    obtain ⟨b, hb⟩ := fits.truthy
    rw [renderPiece, hv]
    dsimp only [bind, Except.bind]
    rw [hb]
    cases b with
    | true => exact renderPieces_of_renders inserted fit yes hy
    | false => exact renderPieces_of_renders inserted fit no hn
  | loop target items test body otherwise =>
    rw [Piece.renders] at h
    split at h
    case h_2 => cases h
    rename_i σ shape
    obtain ⟨front, ho⟩ := Bool.and_eq_true_iff.mp h
    obtain ⟨ht, hb⟩ := Bool.and_eq_true_iff.mp front
    obtain ⟨v, hv, items, rfl, all⟩ := eval_of_shape? fit items shape
    obtain ⟨kept, chosen, fits⟩ := selected_of_shape? fit ht all
    have turns (length index : Nat) : ∃ text,
        eachTurn (renderPieces insert template body) scope target length index kept = .ok text :=
      eachTurn_of_all (fun w hw t ht => renderPieces_of_renders (fun _ no => by cases no)
        ((fit.bind "loop" ht).bind target (fits w hw)) body hb) length index
    rw [renderPiece, hv]
    dsimp only [bind, Except.bind, Value.items]
    rw [chosen]
    dsimp only
    split
    · exact renderPieces_of_renders inserted fit otherwise ho
    · exact turns _ _
  | insert name => exact inserted name h

theorem renderPieces_of_renders {Γ : List (String × Shape)} {scope : Scope} {inserts : String → Bool}
    (inserted : ∀ name, inserts name = true → ∃ text, insert name scope = .ok text)
    (fit : Fit Γ scope) (pieces : List Piece) (h : piecesRender Γ inserts pieces = true) :
    ∃ text, renderPieces insert template pieces scope = .ok text := by
  cases pieces with
  | nil => exact ⟨_, rfl⟩
  | cons piece rest =>
    obtain ⟨hp, hr⟩ := Bool.and_eq_true_iff.mp h
    obtain ⟨here, found⟩ := renderPiece_of_renders inserted fit piece hp
    obtain ⟨more, rest⟩ := renderPieces_of_renders inserted fit rest hr
    refine ⟨here ++ more, ?_⟩
    rw [renderPieces, found, rest]
    rfl

end

/-- Whether the template of a name cannot fail, nor any that it inserts. -/
def renders (library : Library) (Γ : List (String × Shape)) : Nat → String → Bool
  | 0, _ => false
  | depth + 1, name =>
    match library name with
    | .ok pieces => piecesRender Γ (renders library Γ depth) pieces
    | .error _ => false

/-- **A template that cannot fail** has a text. -/
theorem render_of_renders {library : Library} (fit : Fit Γ scope) {depth : Nat} {name : String}
    (h : renders library Γ depth name = true) :
    ∃ text, render library depth name scope = .ok text := by
  induction depth generalizing name with
  | zero => cases h
  | succ depth ih =>
    rw [renders] at h
    split at h
    · rename_i pieces found
      have made : ∃ text, renderPieces (render library depth) name pieces scope = .ok text :=
        renderPieces_of_renders (fun _ allowed => ih allowed) fit pieces h
      obtain ⟨text, made⟩ := made
      refine ⟨text, ?_⟩
      rw [render, found]
      exact made
    · cases h

end Pieces

/-- The items of a list, each exposed in the same way. -/
theorem fits_map {α : Type} {σ : Shape} {expose : α → Value} (h : ∀ a, σ.Fits (expose a))
    (as : List α) : (Shape.list σ).Fits (.list (as.map expose)) := by
  refine ⟨_, rfl, fun w hw => ?_⟩
  obtain ⟨a, -, rfl⟩ := List.mem_map.mp hw
  exact h a

theorem fits_text (s : String) : Shape.text.Fits (.text s) := ⟨s, rfl⟩

theorem fits_texts (ss : List String) : (Shape.list .text).Fits (.texts ss) :=
  fits_map fits_text ss

theorem fits_ofOption (s : Option String) : Shape.any.Fits (.ofOption s) := by
  cases s <;> rfl

end Template

open Template (Shape)

section Exposed

def PropSpec.shape : Shape :=
  .record [("name", .text), ("type", .text), ("required", .any), ("category", .text),
    ("description", .any)]

theorem PropSpec.fits (p : PropSpec) : shape.Fits p.exposed :=
  ⟨rfl, ⟨_, rfl⟩, ⟨_, rfl⟩, rfl, ⟨_, rfl⟩, Template.fits_ofOption p.description, trivial⟩

def EventSpec.shape : Shape :=
  .record [("name", .text), ("signature", .text), ("description", .any), ("inherited", .any)]

theorem EventSpec.fits (e : EventSpec) : shape.Fits e.exposed :=
  ⟨rfl, ⟨_, rfl⟩, ⟨_, rfl⟩, Template.fits_ofOption e.description, rfl, trivial⟩

def VariantSpec.shape : Shape :=
  .record [("name", .text), ("values", .list .text), ("type", .text)]

theorem VariantSpec.fits (v : VariantSpec) : shape.Fits v.exposed :=
  ⟨rfl, ⟨_, rfl⟩, Template.fits_texts v.values, ⟨_, rfl⟩, trivial⟩

def StateVariable.shape : Shape :=
  .record [("name", .text), ("type", .text), ("default_value", .any)]

theorem StateVariable.fits (s : StateVariable) : shape.Fits s.exposed :=
  ⟨rfl, ⟨_, rfl⟩, ⟨_, rfl⟩, Template.fits_ofOption s.defaultValue, trivial⟩

def EffectUse.shape : Shape := .record [("name", .text), ("dependencies", .list .text)]

theorem EffectUse.fits (e : EffectUse) : shape.Fits e.exposed :=
  ⟨rfl, ⟨_, rfl⟩, Template.fits_texts e.dependencies, trivial⟩

def PropSection.shape : Shape :=
  .record [("category", .text), ("title", .text), ("props", .list PropSpec.shape)]

theorem PropSection.fits (s : PropSection) : shape.Fits s.exposed :=
  ⟨rfl, ⟨_, rfl⟩, ⟨_, rfl⟩, Template.fits_map PropSpec.fits s.props, trivial⟩

def VariantBinding.shape : Shape :=
  .record [("variant", VariantSpec.shape), ("prop_name", .text), ("matched", .any),
    ("local", .text)]

theorem VariantBinding.fits (b : VariantBinding) : shape.Fits b.exposed :=
  ⟨rfl, b.variant.fits, ⟨_, rfl⟩, rfl, ⟨_, rfl⟩, trivial⟩

def VariantCase.shape : Shape :=
  .record [("prop_name", .text), ("value", .text), ("story_name", .text)]

theorem VariantCase.fits (c : VariantCase) : shape.Fits c.exposed :=
  ⟨rfl, ⟨_, rfl⟩, ⟨_, rfl⟩, ⟨_, rfl⟩, trivial⟩

def Modifier.shape : Shape := .record [("local", .text), ("modifier", .text)]

theorem Modifier.fits (m : Modifier) : shape.Fits m.exposed :=
  ⟨rfl, ⟨_, rfl⟩, ⟨_, rfl⟩, trivial⟩

def HookCall.shape : Shape := .record [("name", .text), ("result", .text)]

theorem HookCall.fits (h : HookCall) : shape.Fits h.exposed :=
  ⟨rfl, ⟨_, rfl⟩, ⟨_, rfl⟩, trivial⟩

def NamePatterns.shape : Shape :=
  .record [("ouia", .list .text), ("aria", .list .text), ("boolean", .list .text)]

theorem NamePatterns.fits (p : NamePatterns) : shape.Fits p.exposed :=
  ⟨rfl, Template.fits_texts p.ouia, Template.fits_texts p.aria, Template.fits_texts p.boolean,
    trivial⟩

/-- What templates may expect of a component. -/
def ComponentView.shape : Shape :=
  .record
    [("component_name", .text), ("component_name_lower", .text), ("styles_key", .text),
      ("props", .list PropSpec.shape), ("prop_sections", .list PropSection.shape),
      ("events", .list EventSpec.shape), ("variants", .list VariantSpec.shape),
      ("variant_bindings", .list VariantBinding.shape), ("variant_cases", .list VariantCase.shape),
      ("custom_hooks", .list HookCall.shape), ("state", .list StateVariable.shape),
      ("effects", .list EffectUse.shape), ("patterns", NamePatterns.shape),
      ("modifiers", .list Modifier.shape), ("react_imports", .list .text), ("ouia_args", .pair),
      ("has_children", .any), ("has_class_name", .any), ("forward_ref", .any),
      ("component_type", .text)]

theorem ComponentView.fits (v : ComponentView) : shape.Fits v.exposed :=
  ⟨rfl, ⟨_, rfl⟩, ⟨_, rfl⟩, ⟨_, rfl⟩, Template.fits_map PropSpec.fits v.props,
    Template.fits_map PropSection.fits v.sections, Template.fits_map EventSpec.fits v.events,
    Template.fits_map VariantSpec.fits v.variants, Template.fits_map VariantBinding.fits v.bindings,
    Template.fits_map VariantCase.fits v.cases, Template.fits_map HookCall.fits v.customHooks,
    Template.fits_map StateVariable.fits v.state, Template.fits_map EffectUse.fits v.effects,
    v.patterns.fits, Template.fits_map Modifier.fits v.modifiers, Template.fits_texts v.reactImports,
    ⟨_, _, rfl⟩, rfl, rfl, rfl, ⟨_, rfl⟩, trivial⟩

end Exposed

namespace Generator

/-- The shapes of the names that templates may use. -/
def shapes : List (String × Shape) :=
  [("ctx", ComponentView.shape), ("framework", .text), ("framework_label", .text),
    ("css_prefix", .text)]

theorem fit_scope (g : Generator) : Template.Fit shapes g.scope :=
  ((((Template.fit_nil []).bind "css_prefix" (Template.fits_text _)).bind "framework_label"
    (Template.fits_text _)).bind "framework" (Template.fits_text _)).bind "ctx" g.view.fits

theorem renders_bundled : ∀ name ∈ Assoc.keys Template.Bundled.table,
    Template.renders (Template.library none) shapes Template.maxDepth name = true := by
  decide +kernel

theorem template_mem_bundled (framework : Framework) (part : Part) :
    part.template framework ∈ Assoc.keys Template.Bundled.table := by
  cases framework <;> cases part <;> decide

/-- **Every part** of every component can be rendered by the bundled templates. -/
theorem render_bundled (g : Generator) (part : Part) :
    ∃ text, g.render (Template.library none) part = .ok text :=
  Template.render_of_renders g.fit_scope (renders_bundled _ (template_mem_bundled g.framework part))

/-- What is rendered are the pieces of a part's template. -/
theorem render_eq_renderPieces {g : Generator} {part : Part} {template : String}
    {pieces : List Template.Piece} (named : part.template g.framework = template)
    (found : Template.library none template = .ok pieces) :
    g.render (Template.library none) part =
      Template.renderPieces (Template.render (Template.library none) 199) template pieces g.scope := by
  rw [Generator.render, named, Template.maxDepth, Template.render, found]
  rfl

end Generator

end PropForge
