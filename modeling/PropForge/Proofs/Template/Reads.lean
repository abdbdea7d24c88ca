import PropForge.Template.Render

/-!
# What a template looks at

A template reads values by paths of names. One that avoids some paths gives the same text where only
the values at these paths differ:

* `Expr.avoids`, `Piece.avoids`: nothing is read at, above or below the paths that are hidden;
* `Alike`: two scopes that differ at most there;
* `renderPieces_alike`, `render_alike`: what is rendered is the same.
-/

namespace PropForge.Template

/-- The names that lead to what an expression reads, if it reads a value and does nothing else. -/
def Expr.path? : Expr → Option (String × List String)
  | .name n => some (n, [])
  | .field owner last => owner.path?.map fun (n, names) => (n, names ++ [last])
  | _ => none

/-- Whether one of two paths goes on from the other. -/
def overlap (p q : List String) : Bool := p.isPrefixOf q || q.isPrefixOf p

variable (hidden : List (List String))

/-- Whether what is read at a path has nothing to do with what is hidden. -/
def isClear (name : String) (names : List String) : Bool :=
  !hidden.any (overlap (name :: names))

mutual

/-- Whether an expression reads nothing of what is hidden. -/
def Expr.avoids (e : Expr) : Bool :=
  match e with
  | .name n => isClear hidden n []
  | .text _ => true
  | .number _ => true
  | .flag _ => true
  | .nothing => true
  | .field owner last =>
    match owner.path? with
    | some (n, names) => isClear hidden n (names ++ [last])
    | none => owner.avoids
  | .item owner index => owner.avoids && index.avoids
  | .filter value _ arguments named =>
    value.avoids && allAvoid arguments && namedAvoid named
  | .choose test yes none _ => test.avoids && yes.avoids
  | .choose test yes (some no) _ => test.avoids && yes.avoids && no.avoids
  | .either first second => first.avoids && second.avoids
  | .both first second => first.avoids && second.avoids
  | .negation value => value.avoids
  | .equal first second => first.avoids && second.avoids

def allAvoid (es : List Expr) : Bool :=
  match es with
  | [] => true
  | e :: rest => e.avoids && allAvoid rest

def namedAvoid (es : List (String × Expr)) : Bool :=
  match es with
  | [] => true
  | (_, e) :: rest => e.avoids && namedAvoid rest

end

mutual

/-- Whether a piece reads nothing of what is hidden and inserts only templates that are allowed. -/
def Piece.avoids (allowed : List String) (piece : Piece) : Bool :=
  match piece with
  | .text _ => true
  | .output e => e.avoids hidden
  | .branch test yes no =>
    test.avoids hidden && piecesAvoid allowed yes && piecesAvoid allowed no
  | .loop _ items test body otherwise =>
    items.avoids hidden && (test.map (·.avoids hidden)).getD true && piecesAvoid allowed body &&
      piecesAvoid allowed otherwise
  | .insert name => allowed.contains name

def piecesAvoid (allowed : List String) (pieces : List Piece) : Bool :=
  match pieces with
  | [] => true
  | piece :: rest => piece.avoids allowed && piecesAvoid allowed rest

end

/-- The value at the end of a path of fields. -/
def follow (v : Value) : List String → Except Error Value
  | [] => .ok v
  | name :: names => do follow ((← v.required).field name) names

/-- Scopes that differ at most in what is hidden. -/
def Alike (σ τ : Scope) : Prop :=
  ∀ n names, isClear hidden n names = true →
    follow (lookup σ n) names = follow (lookup τ n) names

section Alike

variable {hidden : List (List String)} {σ τ : Scope} {template : String}

theorem follow_append (v : Value) (names more : List String) :
    follow v (names ++ more) = follow v names >>= fun w => follow w more := by
  induction names generalizing v with
  | nil => rfl
  | cons name names ih =>
    rw [List.cons_append, follow, follow, bind_assoc]
    exact congrArg _ (funext fun w => ih _)

/-- An expression that is a path has the value at its end. -/
theorem eval_path {e : Expr} {n : String} {names : List String} (h : e.path? = some (n, names)) :
    eval template σ e = follow (lookup σ n) names := by
  fun_induction Expr.path? e generalizing n names with
  | case1 m =>
    cases h
    rw [eval, follow]
  | case2 owner last ih =>
    obtain ⟨⟨n, names⟩, path, same⟩ := Option.map_eq_some_iff.mp h
    cases same
    rw [eval, ih path, follow_append]
    rfl
  | case3 => cases h

/-- A name that is bound again hides what it was. -/
theorem Alike.bind (h : Alike hidden σ τ) (name : String) (v : Value) :
    Alike hidden ((name, v) :: σ) ((name, v) :: τ) := by
  intro n names clear
  by_cases same : name = n
  · simp [lookup, same]
  · have away (ρ : Scope) : lookup ((name, v) :: ρ) n = lookup ρ n := by simp [lookup, same]
    rw [away, away]
    exact h n names clear

mutual

/-- What an expression does not read does not change its value. -/
theorem eval_alike (h : Alike hidden σ τ) (e : Expr) (safe : e.avoids hidden = true) :
    eval template σ e = eval template τ e := by
  cases e with
  | name n => exact congrArg Except.ok (Except.ok.inj (h n [] safe))
  | text s => rfl
  | number n => rfl
  | flag b => rfl
  | nothing => rfl
  | field owner last =>
    rw [Expr.avoids] at safe
    cases path : owner.path? with
    | none =>
      rw [path] at safe
      rw [eval, eval, eval_alike h owner safe]
    | some found =>
      obtain ⟨n, names⟩ := found
      rw [path] at safe
      have whole : (Expr.field owner last).path? = some (n, names ++ [last]) := by
        rw [Expr.path?, path]
        rfl
      rw [eval_path whole, eval_path whole]
      exact h n _ safe
  | item owner index =>
    obtain ⟨ho, hi⟩ := Bool.and_eq_true_iff.mp safe
    rw [eval, eval, eval_alike h owner ho, eval_alike h index hi]
  | filter value name arguments named =>
    obtain ⟨front, hn⟩ := Bool.and_eq_true_iff.mp safe
    obtain ⟨hv, ha⟩ := Bool.and_eq_true_iff.mp front
    rw [eval, eval, eval_alike h value hv, evalAll_alike h arguments ha, evalNamed_alike h named hn]
  | choose test yes no line =>
    cases no with
    | none =>
      obtain ⟨ht, hy⟩ := Bool.and_eq_true_iff.mp safe
      rw [eval, eval, eval_alike h test ht, eval_alike h yes hy]
    | some no =>
      obtain ⟨front, hn⟩ := Bool.and_eq_true_iff.mp safe
      obtain ⟨ht, hy⟩ := Bool.and_eq_true_iff.mp front
      rw [eval, eval, eval_alike h test ht, eval_alike h yes hy, eval_alike h no hn]
  | either first second =>
    obtain ⟨hf, hs⟩ := Bool.and_eq_true_iff.mp safe
    rw [eval, eval, eval_alike h first hf, eval_alike h second hs]
  | both first second =>
    obtain ⟨hf, hs⟩ := Bool.and_eq_true_iff.mp safe
    rw [eval, eval, eval_alike h first hf, eval_alike h second hs]
  | negation value => rw [eval, eval, eval_alike h value safe]
  | equal first second =>
    obtain ⟨hf, hs⟩ := Bool.and_eq_true_iff.mp safe
    rw [eval, eval, eval_alike h first hf, eval_alike h second hs]

theorem evalAll_alike (h : Alike hidden σ τ) (es : List Expr)
    (safe : allAvoid hidden es = true) : evalAll template σ es = evalAll template τ es := by
  cases es with
  | nil => rfl
  | cons e rest =>
    obtain ⟨he, hr⟩ := Bool.and_eq_true_iff.mp safe
    rw [evalAll, evalAll, eval_alike h e he, evalAll_alike h rest hr]

theorem evalNamed_alike (h : Alike hidden σ τ) (es : List (String × Expr))
    (safe : namedAvoid hidden es = true) : evalNamed template σ es = evalNamed template τ es := by
  cases es with
  | nil => rfl
  | cons e rest =>
    obtain ⟨n, e⟩ := e
    obtain ⟨he, hr⟩ := Bool.and_eq_true_iff.mp safe
    rw [evalNamed, evalNamed, eval_alike h e he, evalNamed_alike h rest hr]

end

end Alike

section Render

variable {hidden : List (List String)} {allowed : List String} {σ τ : Scope} {template : String}
  {insert : String → Scope → Except Error String}

theorem selected_alike (h : Alike hidden σ τ) {target : String} {test : Option Expr}
    (safe : (test.map (·.avoids hidden)).getD true = true) (items : List Value) :
    selected template σ target test items = selected template τ target test items := by
  cases test with
  | none => rfl
  | some test =>
    unfold selected
    have same (v : Value) : eval template ((target, v) :: σ) test =
        eval template ((target, v) :: τ) test := eval_alike (h.bind target v) test safe
    simp only [same]

theorem eachTurn_alike {body : Scope → Except Error String}
    (same : ∀ σ τ, Alike hidden σ τ → body σ = body τ) (h : Alike hidden σ τ) (target : String)
    (length index : Nat) (items : List Value) :
    eachTurn body σ target length index items = eachTurn body τ target length index items := by
  induction items generalizing index with
  | nil => rfl
  | cons v rest ih =>
    rw [eachTurn, eachTurn, same _ _ ((h.bind "loop" _).bind target v), ih]

mutual

/-- What a piece does not read does not change its text. -/
theorem renderPiece_alike {σ τ : Scope}
    (inserts : ∀ name ∈ allowed, ∀ σ τ, Alike hidden σ τ → insert name σ = insert name τ)
    (h : Alike hidden σ τ) (piece : Piece) (safe : piece.avoids hidden allowed = true) :
    renderPiece insert template piece σ = renderPiece insert template piece τ := by
  cases piece with
  | text s => rfl
  | output e => rw [renderPiece, renderPiece, eval_alike h e safe]
  | branch test yes no =>
    obtain ⟨front, hn⟩ := Bool.and_eq_true_iff.mp safe
    obtain ⟨ht, hy⟩ := Bool.and_eq_true_iff.mp front
    rw [renderPiece, renderPiece, eval_alike h test ht, renderPieces_alike inserts h yes hy,
      renderPieces_alike inserts h no hn]
  | loop target items test body otherwise =>
    obtain ⟨front, ho⟩ := Bool.and_eq_true_iff.mp safe
    obtain ⟨front, hb⟩ := Bool.and_eq_true_iff.mp front
    obtain ⟨hi, ht⟩ := Bool.and_eq_true_iff.mp front
    have turns (σ τ : Scope) (h' : Alike hidden σ τ) :
        renderPieces insert template body σ = renderPieces insert template body τ :=
      renderPieces_alike inserts h' body hb
    rw [renderPiece, renderPiece, eval_alike h items hi, renderPieces_alike inserts h otherwise ho]
    simp only [selected_alike h ht, eachTurn_alike turns h]
  | insert name => exact inserts name (List.contains_iff_mem.mp safe) σ τ h

theorem renderPieces_alike {σ τ : Scope}
    (inserts : ∀ name ∈ allowed, ∀ σ τ, Alike hidden σ τ → insert name σ = insert name τ)
    (h : Alike hidden σ τ) (pieces : List Piece)
    (safe : piecesAvoid hidden allowed pieces = true) :
    renderPieces insert template pieces σ = renderPieces insert template pieces τ := by
  cases pieces with
  | nil => rfl
  | cons piece rest =>
    obtain ⟨hp, hr⟩ := Bool.and_eq_true_iff.mp safe
    rw [renderPieces, renderPieces, renderPiece_alike inserts h piece hp,
      renderPieces_alike inserts h rest hr]

end

theorem renderPieces_append (before after : List Piece) :
    renderPieces insert template (before ++ after) σ =
      renderPieces insert template before σ >>= fun here =>
        (here ++ ·) <$> renderPieces insert template after σ := by
  induction before with
  | nil =>
    rw [List.nil_append, renderPieces]
    cases renderPieces insert template after σ with
    | error e => rfl
    | ok text => exact congrArg Except.ok (String.empty_append).symm
  | cons piece before ih =>
    rw [List.cons_append, renderPieces, renderPieces, ih]
    cases renderPiece insert template piece σ with
    | error e => rfl
    | ok here =>
      cases renderPieces insert template before σ with
      | error e => rfl
      | ok text =>
        cases renderPieces insert template after σ with
        | error e => rfl
        | ok rest => exact congrArg Except.ok (String.append_assoc).symm

/-- **A template** whose insertions avoid what is hidden gives the same text where only that
differs. -/
theorem render_alike {library : Library}
    (avoid : ∀ name ∈ allowed, ∀ pieces, library name = .ok pieces →
      piecesAvoid hidden allowed pieces = true) (depth : Nat) :
    ∀ name ∈ allowed, ∀ σ τ, Alike hidden σ τ →
      render library depth name σ = render library depth name τ := by
  induction depth with
  | zero =>
    intro name _ σ τ _
    rfl
  | succ depth ih =>
    intro name mem σ τ h
    rw [render, render]
    cases found : library name with
    | error e => rfl
    | ok pieces => exact renderPieces_alike ih h pieces (avoid name mem pieces found)

end Render

end PropForge.Template
