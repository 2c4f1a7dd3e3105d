import Activation.Linking
import Activation.Text.Quoted
import Activation.Width

/-!
# Sample records

The linked records of a small package: accounts with constructors of all sorts, a wrapped number, a
pair of coordinates, and four enumerations.  The source is read and turned into registrations like
any other; the code of its functions is given here.
-/

namespace Activation.Sample

/-- Where the sample package is: its name, and the path of its types. -/
structure Home where
  package : String
  path : String

/-- What the names in the sample source mean. -/
def scope (home : Home) : Scope :=
  let own := ["Account", "Plain", "Coord", "Color", "Implicit", "NoZero", "LateZero"].map
    fun name => (name, (⟨.nominal name, home.path ++ name⟩ : TypeTag))
  let basic := ["bool", "i8", "i16", "i64", "isize", "u8"].map fun name => (name, TypeTag.basic name)
  ⟨home.package,
    own ++ basic ++
      [("String", .string), ("&'static str", .stringSlice), ("Arg", .argument),
        ("*const u8", .constPointer (.basic "u8"))], 64⟩

/-! ## Accounts -/

/-- An account: who owns it, its balance, and the constructor it was made by. -/
structure Account where
  owner : Option String
  balance : Int
  via : String

namespace Account

/-- The account as a value. -/
def toDatum (a : Account) : Datum :=
  .record [("owner", (a.owner.map fun s => Datum.present (.text s)).getD .absent),
    ("balance", .int a.balance), ("via", .text a.via)]

/-- The account of a value. -/
def ofDatum? : Datum → Option Account
  | .record [(_, owner), (_, .int balance), (_, .text via)] =>
    match owner with
    | .present (.text s) => some ⟨some s, balance, via⟩
    | _ => some ⟨none, balance, via⟩
  | _ => none

/-- The account of an argument; null is none. -/
def ofArgument? : Argument → Option Account
  | .value v => ofDatum? v.datum
  | .null => none

/-- The balance that a text spells. -/
def readBalance? (text : String) : Option Int :=
  (Text.readInt? text.toList).filter (fitsSigned 64)

/-- The account that two others make together. -/
def merge (left right : Option Account) : Account :=
  let all := left.toList ++ right.toList
  ⟨all.findSome? (·.owner), all.foldl (fun n a => signedPart 64 (n + a.balance)) 0, "merge"⟩

/-- The text of an argument, if it is one. -/
def textOf? : Argument → Option String
  | .value ⟨tag, .text s⟩ => if tag.is .string then some s else none
  | _ => none

/-- The constructors of accounts. -/
def source : String :=
  "impl Account \x7b
    pub fn empty() -> Self \x7b\x7d
    pub fn opened(owner: Option<String>, balance: i64) -> Result<Self, Overdrawn> \x7b\x7d
    pub fn copy_of(other: Self) -> Account \x7b\x7d
    pub fn tagged(tag: Arg, balance: i64, _flag: bool) -> Self \x7b\x7d
    fn internal(balance: i64) -> Self \x7b\x7d
    pub(crate) fn scoped(owner: String) -> Self \x7b\x7d
    pub fn from_raw(ptr: *const u8) -> Self \x7b\x7d
    #[activator(skip)]
    pub fn skipped() -> Self \x7b\x7d
    pub fn parsed(text: &'static str) -> Result<Account, String> \x7b\x7d
    pub fn merge(left: Option<Self>, right: Option<Account>) -> Self \x7b\x7d
    pub fn balance(&self) -> i64 \x7b\x7d
  \x7d"

/-- What the functions of accounts do. -/
def functions : FunctionTable := fun name arguments =>
  let made (owner : Option String) (balance : Int) : Outcome (Except String Datum) :=
    .finished (.ok (toDatum ⟨owner, balance, name⟩))
  match name, arguments with
  | "opened", [owner, .value ⟨_, .int balance⟩] =>
    if balance < 0 then .finished (.error ("balance " ++ Text.decimal balance ++ " is below zero"))
    else made (textOf? owner) balance
  | "copy_of", [other] =>
    match ofArgument? other with
    | some a => made a.owner a.balance
    | none => made none 0
  | "tagged", [tag, .value ⟨_, .int balance⟩, _] => made (textOf? tag) balance
  | "internal", [.value ⟨_, .int balance⟩] => made none balance
  | "scoped", [owner] => made (textOf? owner) 0
  | "parsed", [.value ⟨_, .text text⟩] =>
    match readBalance? text with
    | some balance => made none balance
    | none => .finished (.error ("cannot parse " ++ Text.quoted text))
  | "merge", [left, right] =>
    .finished (.ok (merge (ofArgument? left) (ofArgument? right)).toDatum)
  | _, _ => made none 0

end Account

/-! ## Wrapped numbers -/

namespace Plain

/-- The constructors of wrapped numbers. -/
def source : String :=
  "impl Plain \x7b
    pub fn of(n: u8) -> Plain \x7b\x7d
    pub fn exploding(n: u8, _why: Option<String>) -> Self \x7b\x7d
  \x7d"

/-- What the functions of wrapped numbers do. -/
def functions : FunctionTable := fun name arguments =>
  match arguments with
  | .value ⟨_, .int n⟩ :: _ =>
    if name = "exploding" ∧ 100 < n then .panicked (Text.decimal n ++ " exceeds 100")
    else .finished (.ok (.int n))
  | _ => .finished (.ok (.int 0))

end Plain

/-! ## The package -/

/-- The declared types of the package. -/
def declarations : List String :=
  ["#[repr(u8)] pub enum Color \x7b Red = 0, Green = 1, Blue = 2 \x7d",
    "pub enum Implicit \x7b Zero, One \x7d",
    "#[repr(i16)] pub enum NoZero \x7b Low = -1, High = 1 \x7d",
    "#[repr(i8)] #[activatable(name = \"late zero\")]
      pub enum LateZero \x7b Minus = -1, Nil = 0, Plus = 1 \x7d",
    "#[activatable(default, name = \"Coordinates\")] pub struct Coord \x7b x: f64, y: f64 \x7d",
    "pub struct Plain(u8);"]

/-- The default value of the one type that is constructed by default. -/
def origin : Datum := .record [("x", .float64 0), ("y", .float64 0)]

/-- The records of the package. -/
def records (home : Home) : LinkedRecords :=
  let scope := scope home
  let declared := declarations.map (LinkedRecords.ofDeclaration scope origin)
  let implemented :=
    [LinkedRecords.ofImplementation scope Account.functions Account.source,
      LinkedRecords.ofImplementation scope Plain.functions Plain.source]
  (declared ++ implemented).foldl LinkedRecords.append .empty

end Activation.Sample
