import Mathlib.Data.List.TakeWhile
import Mathlib.Data.List.Infix
import Mathlib.Data.String.Basic

/-!
# Prompt variables

A stage's prompt template names the engine's bindings and the repo's config vars as `$NAME` or
`${NAME}`. Two programs substitute them: the server (`prompt.rs`), with a scanner over the
template's characters, and the core package (`prompt-builder.ts`), with one regular expression.
Both go over the template once, from left to right: where a token begins and has a value the value
is spliced in and the scan goes on behind the token, anywhere else one character is copied.
-/

namespace Kanna.PromptVars

open List

/-- `PromptContext` of the server. The TypeScript context has the task prompt, the previous
result, the branch, the base ref and the source worktree of it. -/
structure PromptContext where
  taskPrompt : Option String := none
  prevResult : Option String := none
  prevMainResult : Option String := none
  branch : Option String := none
  baseRef : Option String := none
  sourceWorktree : Option String := none
  stageTrigger : String := ""
  vars : Option (List (String × String)) := none

/-- One pass over a template. `matchAt` reads what follows a `$` and answers the text to splice in
and how many characters the token has behind the `$`; `skip` characters are still to be passed. -/
def pass (matchAt : List Char → Option (String × Nat)) : Nat → List Char → List Char
  | _, [] => []
  | skip + 1, _ :: rest => pass matchAt skip rest
  | 0, c :: rest =>
    match if c = '$' then matchAt rest else none with
    | some (text, length) => text.toList ++ pass matchAt length rest
    | none => c :: pass matchAt 0 rest

/-- A letter, a digit or the underscore, all of ASCII. -/
def isNameChar (c : Char) : Bool := c.isAlphanum || c == '_'

/-! ### The server -/

/-- The names that an environment may not redefine. -/
def reservedPromptVars : List String :=
  ["BASE_REF", "BRANCH", "KANNA_TASK_ID", "PREV_MAIN_RESULT", "PREV_RESULT", "SOURCE_WORKTREE",
    "STAGE_TRIGGER", "TASK_PROMPT"]

/-- `none` leaves the token as it is. -/
def promptVarValue (name : String) (context : PromptContext) : Option String :=
  match name with
  | "TASK_PROMPT" => some (context.taskPrompt.getD "")
  | "PREV_RESULT" => some (context.prevResult.getD "")
  | "PREV_MAIN_RESULT" => some (context.prevMainResult.getD "")
  | "BRANCH" => some (context.branch.getD "")
  | "BASE_REF" => some (context.baseRef.getD "")
  | "SOURCE_WORKTREE" => some (context.sourceWorktree.getD "")
  | "STAGE_TRIGGER" => some context.stageTrigger
  | _ =>
    if reservedPromptVars.contains name then none
    else context.vars.bind fun vars => vars.lookup name

/-- The name of the token that a `$` begins, and the token's length behind the `$`. -/
def token : List Char → Option (String × Nat)
  | '{' :: rest =>
    let name := rest.takeWhile (· != '}')
    if '}' ∈ rest then some (String.ofList name, name.length + 2) else none
  | rest =>
    let name := rest.takeWhile isNameChar
    if name = [] then none else some (String.ofList name, name.length)

/-- The value of the token that a `$` begins, and the token's length. -/
def resolve (context : PromptContext) (rest : List Char) : Option (String × Nat) := do
  let (name, length) ← token rest
  let value ← promptVarValue name context
  return (value, length)

/-- The server's substitution. -/
def substitutePromptVars (template : List Char) (context : PromptContext) : List Char :=
  pass (resolve context) 0 template

/-! ### The core package -/

/-- The alternatives of the regular expression. -/
def tsNames : List String := ["TASK_PROMPT", "PREV_RESULT", "BRANCH", "BASE_REF", "SOURCE_WORKTREE"]

/-- The values of the client's variables. -/
def tsValues (context : PromptContext) : String → Option String
  | "TASK_PROMPT" => some (context.taskPrompt.getD "")
  | "PREV_RESULT" => some (context.prevResult.getD "")
  | "BRANCH" => some (context.branch.getD "")
  | "BASE_REF" => some (context.baseRef.getD "")
  | "SOURCE_WORKTREE" => some (context.sourceWorktree.getD "")
  | _ => none

/-- A name in braces. -/
def bracedName (rest : List Char) : Option String :=
  tsNames.find? fun name => ('{' :: (name.toList ++ ['}'])).isPrefixOf rest

/-- A name that no further name character follows. -/
def bareName (rest : List Char) : Option String :=
  tsNames.find? fun name =>
    name.toList.isPrefixOf rest && !(rest.drop name.length).head?.any isNameChar

/-- The client's substitution. -/
def tsSubstitutePromptVars (template : List Char) (context : PromptContext) : List Char :=
  pass (fun rest => do
    let (name, length) ← ((bracedName rest).map fun name => (name, name.length + 2)) <|>
      ((bareName rest).map fun name => (name, name.length))
    return ((tsValues context name).getD (String.ofList ('$' :: rest.take length)), length))
    0 template

/-! ### The two passes agree -/

section

variable {p : Char → Bool} {name rest template : List Char} {context : PromptContext}

theorem pass_congr {first second : List Char → Option (String × Nat)} {skip : Nat}
    (h : ∀ rest, '$' :: rest <:+ template → first rest = second rest) :
    pass first skip template = pass second skip template := by
  induction template generalizing skip with
  | nil => simp only [pass]
  | cons c rest ih =>
    have ih {skip} := @ih skip fun rest hrest => h rest (hrest.trans (suffix_cons ..))
    cases skip with
    | succ skip => simp only [pass, ih]
    | zero =>
      simp only [pass, ih]
      split_ifs with hc
      · rw [h rest (hc ▸ suffix_refl _)]
      · rfl

theorem takeWhile_eq_iff (hname : ∀ c ∈ name, p c) :
    rest.takeWhile p = name ↔ name <+: rest ∧ (rest.drop name.length).head?.any p = false := by
  induction name generalizing rest with
  | nil => cases rest <;> simp [takeWhile_cons]
  | cons c name ih =>
    obtain ⟨hc, hname⟩ := forall_mem_cons.mp hname
    cases rest with
    | nil => simp
    | cons d rest => grind [takeWhile_cons]

theorem closed_iff (hname : ∀ c ∈ name, c ≠ '}') :
    name ++ ['}'] <+: rest ↔ '}' ∈ rest ∧ rest.takeWhile (· != '}') = name := by
  induction name generalizing rest with
  | nil => cases rest <;> grind [takeWhile_cons]
  | cons c name ih =>
    obtain ⟨hc, hname⟩ := forall_mem_cons.mp hname
    cases rest with
    | nil => simp
    | cons d rest => grind [takeWhile_cons]

/-- The first alternative that fits is the name read, if it is one of the alternatives. -/
theorem find_eq_filter {names : List String} {fits : String → Bool} {read : Option String}
    (h : ∀ name ∈ names, fits name ↔ read = some name) :
    names.find? fits = read.filter (· ∈ names) := by
  ext name
  rw [Option.filter_eq_some_iff, decide_eq_true_eq]
  constructor
  · intro hfound
    have hmem := mem_of_find?_eq_some hfound
    exact ⟨(h name hmem).mp (find?_some hfound), hmem⟩
  · rintro ⟨hread, hmem⟩
    have hfits : (names.find? fits).isSome := find?_isSome.mpr ⟨name, hmem, (h name hmem).mpr hread⟩
    obtain ⟨found, hfound⟩ := Option.isSome_iff_exists.mp hfits
    have hother := (h found (mem_of_find?_eq_some hfound)).mp (find?_some hfound)
    rw [hfound, ← hread, hother]

theorem tsNames_chars : ∀ name ∈ tsNames, name.toList ≠ [] ∧ name.toList.all isNameChar := by
  decide

theorem bracedName_eq (rest : List Char) :
    bracedName ('{' :: rest) =
      (if '}' ∈ rest then some (String.ofList (rest.takeWhile (· != '}'))) else none).filter
        (· ∈ tsNames) := by
  refine find_eq_filter fun name hname => ?_
  have hclosing : ∀ c ∈ name.toList, c ≠ '}' := by
    rintro c hc rfl
    exact absurd (all_eq_true.mp (tsNames_chars name hname).2 _ hc) (by decide)
  rw [ isPrefixOf_iff_prefix, cons_prefix_cons, closed_iff hclosing]
  simp [String.ofList_eq]

theorem bareName_eq (rest : List Char) :
    bareName rest =
      (if rest.takeWhile isNameChar = [] then none
        else some (String.ofList (rest.takeWhile isNameChar))).filter (· ∈ tsNames) := by
  refine find_eq_filter fun name hname => ?_
  obtain ⟨hne, hchars⟩ := tsNames_chars name hname
  rw [Bool.and_eq_true, isPrefixOf_iff_prefix, Bool.not_eq_true', ← String.length_toList,
    ← takeWhile_eq_iff (all_eq_true.mp hchars)]
  by_cases hnone : rest.takeWhile isNameChar = []
  · simp [hnone, hne.symm]
  · simp [hnone, String.ofList_eq]

theorem regex_eq_token (rest : List Char) :
    (((bracedName rest).map fun name => (name, name.length + 2)) <|>
      ((bareName rest).map fun name => (name, name.length))) =
      (token rest).filter (·.1 ∈ tsNames) := by
  unfold token
  split
  · rename_i rest
    have hbare : bareName ('{' :: rest) = none := by
      simp [bareName_eq, show isNameChar '{' = false by decide]
    rw [bracedName_eq, hbare]
    split_ifs <;> simp [Option.filter]
  · rename_i hopen
    have hbraced : bracedName rest = none := by
      refine find?_eq_none.mpr fun name _ hfits => ?_
      obtain ⟨after, hafter⟩ := isPrefixOf_iff_prefix.mp hfits
      exact hopen _ hafter.symm
    rw [hbraced, bareName_eq]
    split_ifs with hname <;> simp [Option.filter, hname, -takeWhile_eq_nil_iff]

/-- The names without a value for the server are those that the regular expression leaves out. -/
theorem promptVarValue_eq (hvars : context.vars.getD [] = []) {name : String} (token : String)
    (hmain : name ≠ "PREV_MAIN_RESULT") (htrigger : name ≠ "STAGE_TRIGGER") :
    promptVarValue name context =
      if name ∈ tsNames then some ((tsValues context name).getD token) else none := by
  have hlookup : (context.vars.bind fun vars => vars.lookup name) = none := by
    cases hmap : context.vars <;> simp_all
  simp only [promptVarValue, hlookup, ite_self]
  split <;> simp_all [tsNames, tsValues]

end

/-- A token of the template has the name. -/
def uses (name : String) (template : List Char) : Bool :=
  template.tails.any fun tail =>
    match tail with
    | '$' :: rest => (token rest).map Prod.fst == some name
    | _ => false

/-- **The two programs substitute alike**, where the template uses neither of the names that only
the server knows and the repo declares no vars. -/
theorem substitutePromptVars_agree (template : List Char) (context : PromptContext)
    (hvars : context.vars.getD [] = []) (hmain : uses "PREV_MAIN_RESULT" template = false)
    (htrigger : uses "STAGE_TRIGGER" template = false) :
    substitutePromptVars template context = tsSubstitutePromptVars template context := by
  refine pass_congr fun rest hrest => ?_
  have hunused {name} (huses : uses name template = false) :
      (token rest).map Prod.fst ≠ some name := by
    simpa using any_eq_false.mp huses _ ((mem_tails _ _).mpr hrest)
  rw [regex_eq_token]
  cases htoken : token rest with
  | none => simp [resolve, htoken]
  | some token =>
    obtain ⟨name, length⟩ := token
    have hmain := hunused hmain
    have htrigger := hunused htrigger
    simp only [htoken, Option.map_some, ne_eq, Option.some.injEq] at hmain htrigger
    have hvalue := promptVarValue_eq hvars (String.ofList ('$' :: rest.take length)) hmain htrigger
    by_cases hname : name ∈ tsNames
    · simp [resolve, htoken, hname, hvalue, Option.filter_some]
    · simp [resolve, htoken, hname, hvalue, Option.filter_some]

/-- A braced name, a name that goes on, a lone `$` and a brace that nothing closes. -/
def mixed : List Char := "$\x7bBRANCH\x7d$BRANCHES$$\x7bBASE_REF".toList

theorem substitutePromptVars_agree_mixed :
    (uses "PREV_MAIN_RESULT" mixed = false ∧ uses "STAGE_TRIGGER" mixed = false) ∧
      substitutePromptVars mixed { branch := some "main" } =
        tsSubstitutePromptVars mixed { branch := some "main" } :=
  ⟨by decide, substitutePromptVars_agree _ _ rfl (by decide) (by decide)⟩

/-! ### What is substituted does not depend on the values -/

/-- A template cut at variables: the text in front of them, then for each its name, its token as
written and the text behind it. -/
structure Pieces where
  first : List Char := []
  more : List (String × List Char × List Char) := []

/-- The pieces put together, with a text for each occurrence. -/
def Pieces.render (text : String → List Char → List Char) (pieces : Pieces) : List Char :=
  pieces.first ++ pieces.more.flatMap fun (name, token, literal) => text name token ++ literal

/-- The cut at the tokens whose name is bound. -/
def split (binds : String → Bool) : Nat → List Char → Pieces
  | _, [] => {}
  | skip + 1, _ :: rest => split binds skip rest
  | 0, c :: rest =>
    match if c = '$' then (token rest).filter (binds ·.1) else none with
    | some (name, length) =>
      let behind := split binds length rest
      { more := (name, '$' :: rest.take length, behind.first) :: behind.more }
    | none => let behind := split binds 0 rest; { behind with first := c :: behind.first }

/-- The variable has a value. -/
def binds (context : PromptContext) (name : String) : Bool := (promptVarValue name context).isSome

/-- Its text. -/
def value (context : PromptContext) (name : String) : List Char :=
  ((promptVarValue name context).getD "").toList

theorem render_split (context : PromptContext) (template : List Char) (skip : Nat) :
    (split (binds context) skip template).render (fun _ token => token) = template.drop skip ∧
      (split (binds context) skip template).render (fun name _ => value context name) =
        pass (resolve context) skip template := by
  simp only [Pieces.render]
  induction template generalizing skip with
  | nil => cases skip <;> exact ⟨rfl, rfl⟩
  | cons c rest ih =>
    cases skip with
    | succ skip => exact ih skip
    | zero =>
      by_cases hc : c = '$'
      · subst hc
        cases htoken : token rest with
        | none => simp [split, pass, resolve, htoken, ih 0]
        | some token =>
          obtain ⟨name, length⟩ := token
          cases hvalue : promptVarValue name context with
          | none => simp [split, pass, resolve, binds, htoken, hvalue, Option.filter_some, ih 0]
          | some text =>
            have htext : value context name = text.toList := by rw [value, hvalue, Option.getD_some]
            simp [split, pass, resolve, binds, htoken, hvalue, htext, Option.filter_some, ih length]
      · simp [split, pass, hc, ih 0]

/-- **A value never changes what is substituted elsewhere**: the template has one cut for all
contexts that bind the same names, and no repo var stands for a reserved name. -/
theorem substitutePromptVars_pieces (template : List Char) (context : PromptContext) :
    (split (binds context) 0 template).render (fun _ token => token) = template ∧
      (∀ other, (∀ name, binds other name = binds context name) →
        substitutePromptVars template other =
          (split (binds context) 0 template).render (fun name _ => value other name)) ∧
      ∀ name ∈ reservedPromptVars, ∀ vars,
        promptVarValue name { context with vars } = promptVarValue name context := by
  refine ⟨(render_split context template 0).1, fun other hbinds => ?_,
    fun name hname vars => ?_⟩
  · rw [← funext hbinds]
    exact (render_split other template 0).2.symm
  · unfold promptVarValue
    split <;> simp [hname]

/-- A branch whose name would be a token itself. -/
def onToken : PromptContext := { branch := some "$BASE_REF", baseRef := some "main" }

theorem substitutePromptVars_pieces_onToken :
    (∀ name, binds onToken name = binds { branch := some "task" } name) ∧
      substitutePromptVars "$BRANCH $BASE_REF".toList onToken = "$BASE_REF main".toList ∧
      substitutePromptVars "$BRANCH $BASE_REF".toList onToken =
        (split (binds { branch := some "task" }) 0 "$BRANCH $BASE_REF".toList).render
          (fun name _ => value onToken name) := by
  have hbinds : ∀ name, binds onToken name = binds { branch := some "task" } name := by
    intro name
    unfold binds promptVarValue
    split <;> rfl
  obtain ⟨-, hcut, -⟩ := substitutePromptVars_pieces "$BRANCH $BASE_REF".toList
    { branch := some "task" }
  exact ⟨hbinds, by decide, hcut onToken hbinds⟩

end Kanna.PromptVars
