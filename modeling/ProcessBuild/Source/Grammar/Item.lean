/-
Items. Only declarations of types, implementations of traits, uses of names and modules tell something of types; an
implementation does so when its trait is a path, and forms that are not settled tell nothing.
-/
import ProcessBuild.Source.Grammar.Statement

namespace ProcessBuild.Source.Grammar

open ProcessBuild.Source.Parser

/-! ## Functions -/

/-- a receiver, if one stands here; its place -/
def receiver? (r : Rules) : Parser (Option (Option Nat)) := attempt do
  let reference ← symbol? "&"
  if reference then discard lifetime?
  discard (keyword? "mut")
  let place ← here
  keyword "self"
  unless reference do
    if ← symbol? ":" then discard (r.type true)
  return place

/-- the rest of an argument of a function after its attributes: whether it is open, so that it is the last one -/
def typedArgument (r : Rules) : Parser Bool := do
  if (← peek .identifier) && (← peek2 (sym "<")) then
    discard (r.type true)
    return false
  discard r.pattern
  symbol ":"
  if ← symbol? "..." then return true
  discard (r.type true)
  return false

/-- the arguments of a function; `first` before any of them, `received` after a receiver -/
def functionArguments (r : Rules) : Nat → (first received : Bool) → Parser Unit
  | 0, _, _ => return
  | n + 1, first, received => do
    if ← atEnd then return
    discard (outerAttributes r)
    if ← symbol? "..." then
      unless ← atEnd do symbol ","
      return
    match ← receiver? r with
    | some place =>
      if received then refuseAt place .secondReceiver
      unless first do refuseAt place .lateReceiver
      if ← atEnd then return
      symbol ","
      functionArguments r n false true
    | none =>
      if ← typedArgument r then
        unless ← atEnd do symbol ","
        return
      if ← atEnd then return
      symbol ","
      functionArguments r n false received

/-- the words before the `fn` of a signature, which may be declared safe among foreign items -/
def signatureWords (safe : Bool) : Parser Unit := do
  discard (keyword? "const")
  discard (keyword? "async")
  unless ← keyword? "unsafe" do
    if safe then discard (keyword? "safe")
  abi?

def signatureFollows (safe : Bool) : Parser Bool := ahead do
  signatureWords safe
  peek (kw "fn")

def signature (r : Rules) (safe : Bool) : Parser Unit := do
  signatureWords safe
  keyword "fn"
  discard identifier
  discard (generics r)
  inside .parenthesis do functionArguments r (← roundsLeft) true false
  discard (resultType r true)
  discard (whereClause r)

/-! ## Parts of items -/

/-- a constant after its keyword: name, parameters, type and value -/
def constant (r : Rules) : Parser Unit := do
  if ← peekAny [.identifier, kw "_"] then discard anyWord else expect [.identifier, kw "_"]
  discard (generics r)
  symbol ":"
  discard (r.type true)
  if ← symbol? "=" then discard (r.expr true)
  discard (whereClause r)
  symbol ";"

/-- where a type definition may have its conditions -/
inductive ConditionsAt where
  | beforeDefinition
  | afterDefinition
  | both
  deriving DecidableEq

/-- a type definition: its name, whether bounds are written, and what it is defined as -/
structure TypeDefinition where
  name : String
  bounded : Bool
  definition : Option TypeShape

/-- a type definition from its visibility on -/
def typeDefinition (r : Rules) (defaultable : Bool) (conditionsAt : ConditionsAt) : Parser TypeDefinition := do
  discard visibility
  if defaultable then discard (keyword? "default")
  keyword "type"
  let name ← identifier
  discard (generics r)
  let bounded ← symbol? ":"
  if bounded then
    discard (separated "+" (peekAny [kw "where", sym "=", sym ";"]) (r.bound false true))
  let early ← if conditionsAt = .afterDefinition then pure false else whereClause r
  let definition ← if ← symbol? "=" then some <$> r.type true else pure none
  unless early || conditionsAt = .beforeDefinition do discard (whereClause r)
  symbol ";"
  return ⟨name, bounded, definition⟩

def namedField (r : Rules) : Parser Unit := do
  discard (outerAttributes r)
  discard visibility
  if ← keyword? "_" then
    symbol ":"
    if (← peek (kw "struct")) || ((← peek (kw "union")) && (← peek2 curlies)) then
      discard anyWord
      inside .brace (discard (commaList do
        discard (outerAttributes r)
        discard visibility
        discard identifier
        symbol ":"
        discard (r.type true)))
    else discard (r.type true)
  else
    discard identifier
    symbol ":"
    discard (r.type true)

def namedFields (r : Rules) : Parser Unit := inside .brace (discard (commaList (namedField r)))

def tupleFields (r : Rules) : Parser Unit :=
  inside .parenthesis (discard (commaList do
    discard (outerAttributes r)
    discard visibility
    discard (r.type true)))

/-- what follows the name of a structure -/
def structBody (r : Rules) : Parser Unit := do
  let early ← whereClause r
  if !early && (← peek parentheses) then
    tupleFields r
    let late ← whereClause r
    if ← peek (sym ";") then symbol ";"
    else expect (if late then [sym ";"] else [kw "where", sym ";"])
  else if ← peek curlies then namedFields r
  else if ← peek (sym ";") then symbol ";"
  else expect (if early then [curlies, sym ";"] else [kw "where", parentheses, curlies, sym ";"])

def enumVariant (r : Rules) : Parser Unit := do
  discard (outerAttributes r)
  discard visibility
  discard identifier
  if ← peek curlies then namedFields r
  else if ← peek parentheses then tupleFields r
  if ← symbol? "=" then discard (r.expr true)

def macroStarts : List Expected := [.identifier, kw "self", kw "super", kw "crate", sym "::"]

/-! ## Traits -/

def traitItem (r : Rules) : Parser Unit := do
  discard (outerAttributes r)
  let visible ← visibility
  let default ← keyword? "default"
  let bare := !visible && !default
  if ← signatureFollows false then
    signature r false
    if ← peek curlies then attributedBlock r
    else if ← peek (sym ";") then symbol ";"
    else expect [curlies, sym ";"]
  else if ← keyword? "const" then
    if ← peekAny [.identifier, kw "_"] then constant r
    else expect [.identifier, kw "_", kw "async", kw "unsafe", kw "extern", kw "fn"]
  else if ← peek (kw "type") then discard (typeDefinition r false .afterDefinition)
  else if bare && (← peekAny macroStarts) then macroItem r false
  else expect ([kw "fn", kw "const", kw "type"] ++ if bare then macroStarts else [])

/-- the path of a bound on a trait -/
def boundPath? : Bound → Option Path
  | .trait p _ => some p
  | _ => none

/-- a trait from its supertraits on -/
def traitRest (r : Rules) (name : String) : Parser Item := do
  let bs ← if ← symbol? ":" then separated "+" (peekAny [kw "where", curlies]) (r.bound false true) else pure []
  discard (whereClause r)
  inside .brace do
    innerAttributes r
    discard (toEnd (traitItem r))
  return .trait name (bs.filterMap boundPath?)

/-- a trait, with the words that may come before it -/
def traitWithWords (r : Rules) : Parser Item := do
  discard (outerAttributes r)
  discard visibility
  discard (keyword? "unsafe")
  discard (keyword? "auto")
  keyword "trait"
  let name ← identifier
  discard (generics r)
  traitRest r name

/-- a trait, or another name for bounds -/
def traitOrAlias (r : Rules) : Parser Item := do
  discard (outerAttributes r)
  discard visibility
  keyword "trait"
  let name ← identifier
  discard (generics r)
  if ← peekAny [curlies, sym ":", kw "where"] then traitRest r name
  else if ← symbol? "=" then
    discard (separated "+" (peekAny [kw "where", sym ";"]) (r.bound false true))
    discard (whereClause r)
    symbol ";"
    return .other
  else expect [curlies, sym ":", kw "where", sym "="]

/-! ## Implementations -/

/-- an item of an implementation: the path of an associated type `Target` that it defines, if it does -/
def implItem (r : Rules) : Parser (Option (Option Path)) := do
  discard (outerAttributes r)
  let (visible, default, isFunction, isConst, isType, isMacro) ← ahead do
    let visible ← visibility
    let default := (← peek (kw "default")) && !(← peek2 (sym "!"))
    if default then keyword "default"
    return (visible, default, ← signatureFollows false, ← peek (kw "const"), ← peek (kw "type"),
      ← peekAny macroStarts)
  let bare := !visible && !default
  if isFunction then
    discard visibility
    discard (keyword? "default")
    signature r false
    unless ← symbol? ";" do attributedBlock r
    return none
  else if isConst then
    discard visibility
    discard (keyword? "default")
    keyword "const"
    constant r
    return none
  else if isType then
    let d ← typeDefinition r true .afterDefinition
    unless d.name = "Target" && !d.bounded do return none
    return d.definition.map fun t => match t.form with
      | .path p => some p.path
      | _ => none
  else if bare && isMacro then
    macroItem r false
    return none
  else
    discard visibility
    if default then keyword "default"
    expect ((if default then [] else [kw "default"]) ++ [kw "fn", kw "const", kw "type"] ++
      if bare then macroStarts else [])

/-- the path of a type that is written as a path -/
def typePath? (t : TypeShape) : Option Path :=
  match t.form with
  | .path p => some p.path
  | _ => none

def implementation (r : Rules) : Parser Item := do
  discard (outerAttributes r)
  let visible ← visibility
  discard (keyword? "default")
  discard (keyword? "unsafe")
  keyword "impl"
  if ← parametersFollow then discard (generics r)
  let isConst := (← peek (kw "const")) || ((← peek (sym "?")) && (← peek2 (kw "const")))
  if isConst then
    discard (symbol? "?")
    keyword "const"
  let polarity ← here
  let negative := (← peek (sym "!")) && !(← peek2 curlies)
  if negative then symbol "!"
  let first ← r.type true
  let implemented ← if ← keyword? "for" then some <$> r.type true else pure none
  if implemented.isNone && negative then refuseAt polarity .negativeInherent
  discard (whereClause r)
  let items ← inside .brace do
    innerAttributes r
    toEnd (implItem r)
  match implemented, first.form with
  | some type, .path p =>
    if visible || isConst || p.qualified then return .other
    return .impl ⟨negative, p.path, typePath? type, items.filterMap id⟩
  | _, _ => return .other

/-! ## Other items -/

def foreignItem (r : Rules) : Parser Unit := do
  discard (outerAttributes r)
  let (visible, isFunction, isStatic, isType, isMacro) ← ahead do
    let visible ← visibility
    let isStatic := (← peek (kw "static")) || ((← peekAny [kw "unsafe", kw "safe"]) && (← peek2 (kw "static")))
    return (visible, ← signatureFollows true, isStatic, ← peek (kw "type"), ← peekAny macroStarts)
  if isFunction then
    discard visibility
    signature r true
    if ← peek curlies then attributedBlock r else symbol ";"
  else if isStatic then
    discard visibility
    unless ← keyword? "unsafe" do discard (keyword? "safe")
    keyword "static"
    discard (keyword? "mut")
    discard identifier
    symbol ":"
    discard (r.type true)
    if ← symbol? "=" then discard (r.expr true)
    symbol ";"
  else if isType then discard (typeDefinition r false .both)
  else if !visible && isMacro then macroItem r false
  else
    discard visibility
    expect ([kw "fn", kw "static", kw "type"] ++ if visible then [] else macroStarts)

def foreignModule (r : Rules) : Parser Item := do
  discard (outerAttributes r)
  discard (keyword? "unsafe")
  keyword "extern"
  discard (literal? Literal.isString)
  inside .brace do
    innerAttributes r
    discard (toEnd (foreignItem r))
  return .other

/-- another crate, perhaps under another name -/
def externCrate : Parser Item := do
  discard visibility
  keyword "extern"
  keyword "crate"
  if ← peek (kw "self") then discard anyWord else discard identifier
  if ← keyword? "as" then
    unless ← keyword? "_" do discard identifier
  symbol ";"
  return .other

/-- a name brought into use under another name -/
def newName : Parser String := do
  if ← peek .identifier then identifier
  else if ← peek (kw "_") then anyWord
  else refuse .identifierOrUnderscore

/-- the branches of a group in a use declaration; nothing when one of them starts anew at the root -/
def useBranches (r : Rules) (root : Bool) : Nat → Parser (Option (List UseTree))
  | 0 => return some []
  | n + 1 => do
    if ← atEnd then return some []
    let anew ← if root then symbol? "::" else pure false
    let tree ← r.useTree (root && !anew)
    let tree := if anew then none else tree
    if ← atEnd then return tree.map ([·])
    symbol ","
    let trees ← useBranches r root n
    return do pure ((← tree) :: (← trees))

/-- what a use declaration brings in, nothing where a branch starts anew at the root -/
def useTreeRule (r : Rules) (root : Bool) : Parser (Option UseTree) := do
  if ← peekAny [.identifier, kw "self", kw "super", kw "crate", kw "try"] then
    let name ← anyWord
    if ← symbol? "::" then return (← r.useTree false).map (.path name)
    if ← keyword? "as" then return some (.rename name (← newName))
    return some (.name name)
  else if ← symbol? "*" then return some .glob
  else if ← peek curlies then
    let trees ← inside .brace do useBranches r root (← roundsLeft)
    return trees.map .group
  else expect [.identifier, kw "self", kw "super", kw "crate", kw "try", sym "*", curlies]

def useItem (r : Rules) : Parser Item := do
  discard (outerAttributes r)
  discard visibility
  keyword "use"
  let absolute ← symbol? "::"
  let tree ← r.useTree !absolute
  symbol ";"
  return match tree with
    | some t => .use absolute t
    | none => .other

def staticItem (r : Rules) : Parser Item := do
  discard visibility
  keyword "static"
  discard (keyword? "mut")
  discard identifier
  if ← symbol? "=" then
    discard (r.expr true)
  else
    symbol ":"
    discard (r.type true)
    unless ← peek (sym ";") do
      symbol "="
      discard (r.expr true)
  symbol ";"
  return .other

/-- a module, in place or in another file -/
def moduleItem (r : Rules) : Parser Item := do
  discard (outerAttributes r)
  discard visibility
  discard (keyword? "unsafe")
  keyword "mod"
  let name ← if ← peek (kw "try") then anyWord else identifier
  if ← symbol? ";" then return .other
  if ← peek curlies then
    let items ← inside .brace do
      innerAttributes r
      toEnd r.item
    return .module name items
  expect [sym ";", curlies]

def structItem (r : Rules) : Parser Item := do
  discard visibility
  keyword "struct"
  let name ← identifier
  discard (generics r)
  structBody r
  return .struct name

def enumItem (r : Rules) : Parser Item := do
  discard visibility
  keyword "enum"
  let name ← identifier
  discard (generics r)
  discard (whereClause r)
  inside .brace (discard (commaList (enumVariant r)))
  return .enum name

def unionItem (r : Rules) : Parser Item := do
  discard visibility
  keyword "union"
  discard identifier
  discard (generics r)
  discard (whereClause r)
  namedFields r
  return .other

def macroDeclaration : Parser Item := do
  discard visibility
  keyword "macro"
  discard identifier
  let arguments ← peek parentheses
  if arguments then inside .parenthesis everything
  if ← peek curlies then inside .brace everything
  else expect (if arguments then [curlies] else [parentheses, curlies])
  return .other

def functionItem (r : Rules) : Parser Item := do
  discard visibility
  signature r false
  unless ← symbol? ";" do attributedBlock r
  return .other

/-- an item that starts with `extern`: another crate or a foreign module -/
def externItem (r : Rules) : Parser Item := do
  let (isCrate, isModule, named) ← ahead do
    discard visibility
    keyword "extern"
    let isCrate ← peek (kw "crate")
    let named := (← literal? Literal.isString).isSome
    return (isCrate, ← peek curlies, named)
  if isCrate then externCrate
  else if isModule then foreignModule r
  else
    discard visibility
    keyword "extern"
    if named then discard (literal? Literal.isString)
    expect (if named then [curlies] else [kw "crate", curlies, .string])

def unsafeItem (r : Rules) : Parser Item := do
  let (isTrait, isImpl, isExtern, isModule) ← ahead do
    discard visibility
    keyword "unsafe"
    let isTrait := (← peek (kw "trait")) || ((← peek (kw "auto")) && (← peek2 (kw "trait")))
    return (isTrait, ← peek (kw "impl"), ← peek (kw "extern"), ← peek (kw "mod"))
  if isTrait then traitWithWords r
  else if isImpl then implementation r
  else if isExtern then foreignModule r
  else if isModule then moduleItem r
  else
    discard visibility
    keyword "unsafe"
    expect [kw "trait", kw "auto", kw "impl", kw "extern", kw "mod"]

/-- the alternatives for an item with a visibility -/
def itemStarts : List Expected := [
  kw "fn", kw "extern", kw "use", kw "static", kw "const", kw "unsafe", kw "mod", kw "type", kw "struct", kw "enum",
  kw "union", kw "trait", kw "auto", kw "impl", kw "default", kw "macro"]

/-- the kinds of items by their first words -/
inductive ItemKind where
  | function
  | foreign
  | use
  | static
  | const
  | unchecked
  | module
  | type
  | struct
  | enum
  | union
  | trait
  | autoTrait
  | impl
  | declaredMacro
  | usedMacro

/-- the kind of item that starts here after its visibility, if one does -/
def itemKind (visible : Bool) : Parser (Option ItemKind) := do
  if ← signatureFollows false then return some .function
  if ← peek (kw "extern") then return some .foreign
  if ← peek (kw "use") then return some .use
  if ← peek (kw "static") then return some .static
  if ← peek (kw "const") then return some .const
  if ← peek (kw "unsafe") then return some .unchecked
  if ← peek (kw "mod") then return some .module
  if ← peek (kw "type") then return some .type
  if ← peek (kw "struct") then return some .struct
  if ← peek (kw "enum") then return some .enum
  if (← peek (kw "union")) && (← peek2 .identifier) then return some .union
  if ← peek (kw "trait") then return some .trait
  if (← peek (kw "auto")) && (← peek2 (kw "trait")) then return some .autoTrait
  if (← peek (kw "impl")) || ((← peek (kw "default")) && !(← peek2 (sym "!"))) then return some .impl
  if ← peek (kw "macro") then return some .declaredMacro
  if !visible && (← peekAny macroStarts) then return some .usedMacro
  return none

/-- an item after its attributes -/
def itemBodyRule (r : Rules) : Parser Item := do
  let (visible, kind) ← ahead do
    let visible ← visibility
    return (visible, ← itemKind visible)
  match kind with
  | some .function => functionItem r
  | some .foreign => externItem r
  | some .use => useItem r
  | some .static => staticItem r
  | some .const =>
    discard visibility
    keyword "const"
    constant r
    return .other
  | some .unchecked => unsafeItem r
  | some .module => moduleItem r
  | some .type =>
    discard (typeDefinition r false .beforeDefinition)
    return .other
  | some .struct => structItem r
  | some .enum => enumItem r
  | some .union => unionItem r
  | some .trait => traitOrAlias r
  | some .autoTrait => traitWithWords r
  | some .impl => implementation r
  | some .declaredMacro => macroDeclaration
  | some .usedMacro =>
    macroItem r true
    return .other
  | none =>
    discard visibility
    expect (itemStarts ++ if visible then [] else macroStarts)

def itemRule (r : Rules) : Parser Item := do
  discard (outerAttributes r)
  r.itemBody

end ProcessBuild.Source.Grammar
