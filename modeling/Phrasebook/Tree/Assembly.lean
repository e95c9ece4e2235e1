import Phrasebook.Tree.Node

namespace Phrasebook

inductive Part where
  | text (s : String)
  | data
  | node (n : Node)
  | nodes (ns : List Node)

namespace Part

def toNode : Part → Node
  | .node n => n
  | _ => .blank

def toNodes : Part → List Node
  | .node n => [n]
  | .nodes ns => ns
  | _ => []

def toText : Part → String
  | .text s => s
  | _ => ""

end Part

namespace Node

/-- The kinds of node that are told apart only by their children, with the fields that hold these in
the order in which they are visited. A kind that is not listed is a leaf. -/
def childFields : List (String × List String) :=
  [("AnnAssign", ["target", "annotation", "value"]), ("Assert", ["test", "msg"]),
    ("Assign", ["targets", "value"]), ("AsyncFor", ["target", "iter", "body", "orelse"]),
    ("AsyncFunctionDef", ["args", "body", "decorator_list", "returns"]),
    ("AsyncWith", ["items", "body"]), ("AugAssign", ["target", "op", "value"]),
    ("ClassDef", ["bases", "keywords", "body", "decorator_list"]), ("Delete", ["targets"]),
    ("Expr", ["value"]), ("For", ["target", "iter", "body", "orelse"]),
    ("FunctionDef", ["args", "body", "decorator_list", "returns"]),
    ("If", ["test", "body", "orelse"]), ("Import", ["names"]), ("ImportFrom", ["names"]),
    ("Match", ["subject", "cases"]), ("Raise", ["exc", "cause"]), ("Return", ["value"]),
    ("Try", ["body", "handlers", "orelse", "finalbody"]),
    ("TryStar", ["body", "handlers", "orelse", "finalbody"]),
    ("While", ["test", "body", "orelse"]), ("With", ["items", "body"]), ("Await", ["value"]),
    ("BoolOp", ["op", "values"]), ("Compare", ["left", "ops", "comparators"]),
    ("Dict", ["keys", "values"]), ("DictComp", ["key", "value", "generators"]),
    ("FormattedValue", ["value", "format_spec"]), ("GeneratorExp", ["elt", "generators"]),
    ("IfExp", ["test", "body", "orelse"]), ("Lambda", ["args", "body"]),
    ("ListComp", ["elt", "generators"]), ("NamedExpr", ["target", "value"]), ("Set", ["elts"]),
    ("SetComp", ["elt", "generators"]), ("Slice", ["lower", "upper", "step"]),
    ("Starred", ["value"]), ("Subscript", ["value", "slice"]), ("UnaryOp", ["op", "operand"]),
    ("Yield", ["value"]), ("YieldFrom", ["value"]), ("ExceptHandler", ["type", "body"]),
    ("Expression", ["body"]), ("FunctionType", ["argtypes", "returns"]), ("Interactive", ["body"]),
    ("Module", ["body", "type_ignores"]), ("MatchAs", ["pattern"]),
    ("MatchClass", ["cls", "patterns", "kwd_patterns"]), ("MatchMapping", ["keys", "patterns"]),
    ("MatchOr", ["patterns"]), ("MatchSequence", ["patterns"]), ("MatchValue", ["value"]),
    ("arg", ["annotation"]),
    ("arguments", ["posonlyargs", "args", "vararg", "kwonlyargs", "kw_defaults", "kwarg",
      "defaults"]),
    ("comprehension", ["target", "iter", "ifs"]), ("keyword", ["value"]),
    ("match_case", ["pattern", "guard", "body"]), ("withitem", ["context_expr", "optional_vars"])]

/-- A node from its kind, its line and its fields. The marks for how a name is used are no nodes. -/
def assemble (kind : String) (line : Option Int) (field : String → Part) : Node :=
  match kind with
  | "Load" | "Store" | "Del" => .blank
  | "Add" => .plus line
  | "Constant" =>
    match field "value" with
    | .text s => .constant line (.text s)
    | _ => .constant line .other
  | "Name" => .name line (field "id").toText
  | "Attribute" => .attribute line (field "value").toNode (field "attr").toText
  | "JoinedStr" => .joined line (field "values").toNodes
  | "BinOp" => .binary line (field "left").toNode (field "op").toNode (field "right").toNode
  | "Tuple" | "List" => .sequence line (field "elts").toNodes
  | "Call" =>
    .call line (field "func").toNode (field "args").toNodes (field "keywords").toNodes
  | _ =>
    let fields := (childFields.lookup kind).getD []
    .other line (fields.flatMap fun name => (field name).toNodes)

end Node

end Phrasebook
