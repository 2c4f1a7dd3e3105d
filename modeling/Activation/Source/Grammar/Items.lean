import Activation.Source.Grammar.Expressions

/-!
# The grammar of items

Functions, implementations with their members, the declarations of types, and the other items that
may stand in a block.  Some items are taken although they mean nothing, such as a constant without a
value; they are kept as they are.
-/

namespace Activation.Source.Grammar

open Pattern

/-- An item, which is kept as it is unless its parts are as they should be. -/
def itemIf (isSound : List Tree → Bool) (p : Phrase) : Phrase :=
  andThen p fun parts => give [.node (if isSound parts then .otherItem else .verbatim) parts]

/-- Whether one of the parts of an item is a node of the kind. -/
def has (k : Kind) (parts : List Tree) : Bool := parts.any (·.isNode k)

/-- Whether the item has a value. -/
def hasValue (parts : List Tree) : Bool := parts.any (·.isMark "=")

def semicolon : Phrase := mark ";"

/-- The value of an item, if there is one. -/
def value : Phrase := after (mark "=") expression

/-! ## Functions -/

/-- A receiver. -/
def receiver : Phrase :=
  let self := maybe (keyword "mut") ++ keyword "self"
  ifNext (mark "&") (sequence [mark "&", maybe lifetime, self]) (self ++ after (mark ":") type)

/-- A parameter.  One that begins like a type with arguments has no pattern, and gets the pattern
for none. -/
def parameter : Phrase :=
  ifNext (identifier ++ mark "<")
    (map (fun type => .node .otherPattern [.word "_"] :: .mark ":" :: type) type)
    (sequence [rule .pattern, mark ":", type])

/-- The ellipsis at the end of parameters. -/
def variadic : Phrase :=
  let ellipsis := mark "..."
  let pattern := sequence [notNext (identifier ++ mark "<"), rule .pattern, mark ":"]
  node .variadic (sequence
    [outerAttributes, either ellipsis (pattern ++ ellipsis), maybe (mark ","), atEnd])

/-- The parameters of a function; only the first can be a receiver. -/
def parameters : Phrase :=
  let isReceiver := outerAttributes ++ receiver
  let step (isFirst : Bool) : Phrase :=
    let attributed := ifNext isReceiver
      (if isFirst then node .receiver isReceiver else never)
      (either variadic (node .parameter (outerAttributes ++ parameter)))
    ifNext atEnd nothing (attributed ++ ifNext atEnd nothing (mark ","))
  node .parameters (group .round (step true ++ many (step false)))

/-- The words in front of `fn`. -/
def signatureStart (safe : Bool) : Phrase :=
  let safety := if safe then oneOf ["unsafe", "safe"] else keyword "unsafe"
  sequence
    [maybe (keyword "const"), maybe (keyword "async"), maybe safety, maybe convention, keyword "fn"]

/-- A function up to its body. -/
def signature (safe : Bool) : Phrase :=
  sequence [signatureStart safe, identifier, generics, parameters, result true, conditions]

/-- The body of a function. -/
def body : Phrase := node .body attributedBlock

/-- A function that begins with the given parts; one without a body is kept as it is. -/
def function (front : Phrase) : Phrase :=
  andThen (front ++ signature false) fun parts =>
    ifNext semicolon (verbatim (give parts ++ semicolon)) (node .function (give parts ++ body))

/-! ## Constants, types and macros -/

/-- A constant.  One with parameters or conditions is kept as it is. -/
def constantItem (front : Phrase) (isSound : List Tree → Bool) : Phrase :=
  itemIf (fun parts => isSound parts && !has .generics parts && !has .conditions parts)
    (sequence
      [front, keyword "const", identifierOrNone, generics, mark ":", type, value, conditions,
        semicolon])

/-- The bounds after the name of an item, up to the stop. -/
def itemBounds (stop : Phrase) : Phrase :=
  whenNext (mark ":")
    (node .bounds (mark ":" ++ separated "+" stop (rule (.bound false true))))

/-- Where the conditions of a type alias stand. -/
inductive ConditionPlace
  | beforeDefinition
  | afterDefinition
  | anywhere
deriving DecidableEq, Repr

/-- A type alias. -/
def aliasItem (front : Phrase) (place : ConditionPlace) (isSound : List Tree → Bool) : Phrase :=
  let stop := firstOf [keyword "where", mark "=", semicolon]
  let definition := after (mark "=") type
  itemIf isSound (sequence
    [front, keyword "type", identifier, generics, itemBounds stop,
      match place with
      | .beforeDefinition => conditions ++ definition
      | .afterDefinition => definition ++ conditions
      | .anywhere => andThen conditions fun given =>
          sequence [give given, definition, if given.isEmpty then conditions else nothing],
      semicolon])

/-- Whether a type alias is defined, and has no bounds. -/
def isDefined (parts : List Tree) : Bool := hasValue parts && !has .bounds parts

/-- What a macro is given, and the semicolon that follows unless it stands in braces. -/
def macroArguments : Phrase :=
  either (group .curly anything)
    (either (group .round anything) (group .square anything) ++ semicolon)

/-- Where a macro call as an item begins. -/
def macroStart : Phrase :=
  firstOf [identifier, oneOf ["self", "super", "crate"], mark "::"]

/-- A macro call. -/
def macroItem (name : Phrase) : Phrase :=
  node .otherItem (sequence [outerAttributes, plainPath, mark "!", name, macroArguments])

/-! ## Implementations -/

/-- A member of an implementation. -/
def implementationMember : Phrase :=
  let default := keyword "default" ++ notNext (mark "!")
  let ahead := sequence [attributesAhead, visibility, maybe default]
  let front := sequence [outerAttributes, visibility, maybe default]
  choose
    [(ahead ++ signatureStart false, function front),
      (ahead ++ keyword "const", constantItem front hasValue),
      (ahead ++ keyword "type", aliasItem front .afterDefinition isDefined),
      (sequence [attributesAhead, notNext default, macroStart], macroItem nothing)]
    never

/-- What an implementation is about.  In a block it may be of a trait that is not one. -/
def implemented (inBlock : Bool) : Phrase :=
  andThen (maybe (mark "!" ++ notNext anyCurly)) fun negation =>
    andThen type fun first =>
      let notTrait := if inBlock then sequence [give (negation ++ first), keyword "for", type]
        else never
      ifNext (keyword "for")
        (match first with
        | [.node .pathType path] =>
          if isUnqualified path then
            node .implementedTrait (give (negation ++ [.node .path path]) ++ keyword "for") ++ type
          else notTrait
        | _ => notTrait)
        (if negation.isEmpty then give first else never)

/-- An implementation.  In a block it may have forms that mean nothing, and is then kept as it
is. -/
def implementation (inBlock : Bool) : Phrase :=
  let optional (p : Phrase) : Phrase := if inBlock then maybe p else nothing
  let constness := maybe (mark "?") ++ keyword "const"
  let parts := sequence
    [outerAttributes, optional visibility, maybe (keyword "default"), maybe (keyword "unsafe"),
      keyword "impl", whenNext genericsAhead generics, optional constness, implemented inBlock,
      conditions, group .curly (innerAttributes ++ upTo atEnd implementationMember)]
  andThen parts fun parts =>
    let isSound := !has .openVisibility parts && !has .scopedVisibility parts &&
      !parts.any (·.isWord "const") &&
      (has .implementedTrait parts || !parts.any (·.isWord "for"))
    give [.node (if isSound then .implementation else .verbatim) parts]

/-! ## Declared types -/

/-- A field with a name.  One without a name may hold fields of its own. -/
def namedField : Phrase :=
  let unnamed := keyword "_" ++ mark ":"
  let holder := either (keyword "struct") (keyword "union" ++ isNext anyCurly)
  let held := node .otherType (verbatim (holder ++ rule .namedFields))
  sequence
    [outerAttributes, visibility,
      ifNext unnamed (unnamed ++ ifNext holder held type)
        (sequence [identifier, mark ":", type])]

/-- Fields between braces. -/
def namedFields : Phrase := node .fields (group .curly (commas namedField))

/-- Fields between round brackets. -/
def positionalFields : Phrase :=
  node .fields (group .round (commas (sequence [outerAttributes, visibility, type])))

/-- The start of a declaration with the given word, up to its parameters. -/
def declarationStart (w : String) : Phrase :=
  sequence [outerAttributes, visibility, keyword w, identifier, generics]

/-- A record type. -/
def record : Phrase :=
  node .record (declarationStart "struct" ++
    ifNext anyRound (sequence [positionalFields, conditions, semicolon])
      (conditions ++ ifNext anyCurly (rule .namedFields) semicolon))

/-- A variant of an enumeration. -/
def variant : Phrase :=
  node .variant (sequence
    [outerAttributes, visibility, identifier,
      choose [(anyCurly, rule .namedFields), (anyRound, positionalFields)] nothing,
      whenNext (mark "=") (node .discriminant value)])

/-- An enumeration. -/
def enumeration : Phrase :=
  node .enumeration
    (sequence [declarationStart "enum", conditions, group .curly (commas variant)])

/-- A union. -/
def union : Phrase :=
  node .union (sequence [declarationStart "union", conditions, rule .namedFields])

/-- A declared type. -/
def declaredType : Phrase :=
  let ahead := attributesAhead ++ visibility
  choose
    [(ahead ++ keyword "struct", record), (ahead ++ keyword "enum", enumeration),
      (ahead ++ keyword "union", union)]
    never

/-! ## Traits -/

/-- A member of a trait.  One with a visibility or a default is kept as it is. -/
def traitMember : Phrase :=
  andThen outerAttributes fun attributes =>
    andThen (visibility ++ maybe (keyword "default")) fun words =>
      let front := give (attributes ++ words)
      let isPlain (_ : List Tree) : Bool := words.isEmpty
      let function := sequence [front, signature false, ifNext semicolon semicolon body]
      choose
        [(signatureStart false, itemIf isPlain function),
          (keyword "const", constantItem front isPlain),
          (keyword "type", aliasItem front .afterDefinition isPlain),
          (if words.isEmpty then macroStart else never, give attributes ++ macroItem nothing)]
        never

/-- A trait, or another name for bounds. -/
def traitItem : Phrase :=
  let word := keyword "where"
  let bound := rule (.bound false true)
  sequence
    [outerAttributes, visibility, maybe (keyword "unsafe"), maybe (keyword "auto"), keyword "trait",
      identifier, generics,
      ifNext (mark "=")
        (sequence
          [mark "=", separated "+" (either word semicolon) bound, conditions, semicolon])
        (sequence
          [itemBounds (either word anyCurly), conditions,
            group .curly (innerAttributes ++ upTo atEnd traitMember)])]

/-! ## Foreign items -/

/-- A member of a foreign block. -/
def foreignMember : Phrase :=
  let ahead := attributesAhead ++ visibility
  let front := outerAttributes ++ visibility
  let safety := oneOf ["unsafe", "safe"]
  let isUnmarked (w : String) (parts : List Tree) : Bool :=
    !(parts.takeWhile (!·.isWord w)).any (·.isWord "safe")
  choose
    [(ahead ++ signatureStart true,
        itemIf (fun parts => isUnmarked "fn" parts && !has .body parts)
          (sequence [front, signature true, ifNext anyCurly body semicolon])),
      (sequence [ahead, maybe safety, keyword "static"],
        itemIf
          (fun parts =>
            isUnmarked "static" parts && !parts.any (·.isWord "unsafe") && !hasValue parts)
          (sequence
            [front, maybe safety, keyword "static", maybe (keyword "mut"), identifier, mark ":",
              type, value, semicolon])),
      (ahead ++ keyword "type",
        aliasItem front .anywhere fun parts => !hasValue parts && !has .bounds parts),
      (attributesAhead ++ macroStart, macroItem nothing)]
    never

/-! ## Items in blocks -/

/-- What a `use` item names; `outer` if a name between braces may begin at the root. -/
def usedNames (outer : Bool) : Phrase :=
  let name : Phrase := .word fun w => isIdentifier w || ["self", "super", "crate", "try"].contains w
  let inner := rule (.usedNames false)
  let separator := mark "::"
  choose
    [(name, name ++ choose
        [(separator, separator ++ inner), (keyword "as", keyword "as" ++ identifierOrNone)] nothing),
      (mark "*", mark "*"),
      (anyCurly, group .curly (commas
        (ifNext (if outer then separator else never) (separator ++ inner)
          (rule (.usedNames outer)))))]
    never

/-- A `use` item.  One with a name between braces that begins at the root is kept as it is. -/
def useItem : Phrase :=
  let item (names : Phrase) : Phrase :=
    sequence [outerAttributes, visibility, keyword "use", names, semicolon]
  let plain := item (maybe (mark "::") ++ rule (.usedNames false))
  ifNext plain (node .otherItem plain) (verbatim (item (rule (.usedNames true))))

/-- A variable.  One without a type or a value is kept as it is. -/
def staticItem : Phrase :=
  itemIf (fun parts => parts.any (·.isMark ":") && hasValue parts)
    (sequence
      [outerAttributes, visibility, keyword "static", maybe (keyword "mut"), identifier,
        ifNext (mark "=") value (sequence [mark ":", type, value]), semicolon])

/-- A module. -/
def moduleItem : Phrase :=
  sequence
    [outerAttributes, visibility, maybe (keyword "unsafe"), keyword "mod",
      either identifier (keyword "try"),
      ifNext semicolon semicolon (group .curly (innerAttributes ++ upTo atEnd (rule .item)))]

/-- An item. -/
def itemPhrase : Phrase :=
  let front := outerAttributes ++ visibility
  let library := sequence
    [front, keyword "extern", keyword "crate", either identifier (keyword "self"),
      after (keyword "as") identifierOrNone, semicolon]
  let foreign := sequence
    [outerAttributes, maybe (keyword "unsafe"), convention,
      group .curly (innerAttributes ++ upTo atEnd foreignMember)]
  let macroDefinition := sequence
    [front, keyword "macro", identifier, ifNext anyRound anyRound nothing, anyCurly]
  let name := either identifier (keyword "try")
  let word := keyword "unsafe"
  let traitStart := either (keyword "trait") (keyword "auto" ++ keyword "trait")
  let cases : List (Phrase × Phrase) :=
    [(signatureStart false, function front),
      (keyword "extern" ++ keyword "crate", node .otherItem library),
      (keyword "extern", node .otherItem foreign),
      (keyword "use", useItem),
      (keyword "static", staticItem),
      (keyword "const", constantItem front hasValue),
      (word ++ traitStart, node .otherItem traitItem),
      (word ++ keyword "impl", implementation true),
      (word ++ keyword "extern", node .otherItem foreign),
      (word ++ keyword "mod", node .otherItem moduleItem),
      (keyword "mod", node .otherItem moduleItem),
      (keyword "type", aliasItem front .beforeDefinition isDefined),
      (keyword "struct", record),
      (keyword "enum", enumeration),
      (keyword "union" ++ identifier, union),
      (traitStart, node .otherItem traitItem),
      (either (keyword "impl") (keyword "default" ++ notNext (mark "!")), implementation true),
      (keyword "macro", verbatim macroDefinition)]
  choose
    (cases.map (fun (start, p) => (sequence [attributesAhead, visibility, start], p)) ++
      [(attributesAhead ++ macroStart, macroItem (maybe name))])
    never

end Activation.Source.Grammar
