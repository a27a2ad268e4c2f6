import KDispatch.Kast.Document

/-!
A sample definition of a tiny imperative language, as the compiler writes definitions. Of its two
rules the first carries the coverage logger; how both are printed in a coverage log is stated beside
them.
-/

namespace KDispatch.Sample

/-- The rule with the coverage logger, and the rule without it. -/
def instrumentedRuleId : String := "R1"

def plainRuleId : String := "R2"

/-- An object with its members in order. -/
def object (members : List (String × Json)) : Json := .object (KeyMap.ofList members).entries

def number (n : Nat) : Json := .number (.integer n)

def label (name : String) : Json :=
  object [("node", .string "KLabel"), ("name", .string name), ("params", .array [])]

def sort (name : String) : Json := object [("node", .string "KSort"), ("name", .string name)]

def attributes (entries : Json) : Json := object [("node", .string "KAtt"), ("att", entries)]

def var (name : String) : Json :=
  object [("node", .string "KVariable"), ("name", .string name), ("originalName", .string name)]

def token (text sortName : String) : Json :=
  object [("node", .string "KToken"), ("token", .string text), ("sort", sort sortName)]

def apply (name : String) (args : List Json) : Json :=
  object [("node", .string "KApply"), ("label", label name), ("variable", .bool false),
    ("arity", number args.length), ("args", .array args)]

def sequence (items : List Json) : Json :=
  object [("node", .string "KSequence"), ("arity", number items.length), ("items", .array items)]

def rewrite (lhs rhs : Json) : Json :=
  object [("node", .string "KRewrite"), ("lhs", lhs), ("rhs", rhs)]

def terminal (text : String) : Json :=
  object [("node", .string "KTerminal"), ("value", .string text)]

def nonTerminal (sortName : String) : Json :=
  object [("node", .string "KNonTerminal"), ("sort", sort sortName)]

def production (name result : String) (items : List Json) (entries : List (String × Json)) : Json :=
  object [("node", .string "KProduction"), ("klabel", label name), ("sort", sort result),
    ("productionItems", .array items), ("params", .array []), ("att", attributes (object entries))]

/-- The attributes that point to a line of the source text. -/
def sourceMap (line : Nat) : List (String × Json) :=
  [(Attributes.sourceKey, .string "Source(/defn/imp.k)"),
   (Attributes.locationKey,
     .string ("Location(" ++ toString line ++ ",3," ++ toString line ++ ",40)"))]

def rule (id : String) (body requires : Json) (line : Nat) : Json :=
  object [("node", .string "KRule"), ("body", body), ("requires", requires),
    ("ensures", apply "#True" []),
    ("att", attributes (object ((Attributes.uniqueIdKey, .string id) :: sourceMap line)))]

def configuration (computation state : Json) : Json :=
  apply "<generatedTop>" [apply "<k>" [computation], apply "<state>" [state]]

/-- The increment of a variable as an addition. -/
def incremented : Json := apply "_+Int_" [var "X", token "1" "Int"]

def increment : Json := apply "inc" [var "X"]

def instrumentedRule : Json :=
  let lhs := configuration (sequence [increment, var "REST"]) (var "S")
  let rhs := configuration (sequence [incremented, var "REST"]) (var "S")
  let logged :=
    apply "project:GeneratedTopCell"
      [sequence [apply "#logToFile" [token "\"R1\"" "String"], rhs]]
  rule instrumentedRuleId (rewrite lhs logged) (token "true" "Bool") 12

def plainRule : Json :=
  rule plainRuleId (rewrite increment incremented)
    (apply "_andBool_" [token "true" "Bool", token "true" "Bool"]) 14

def flatModule (name : String) (imports sentences : List Json) (entries : List (String × Json)) :
    Json :=
  object [("node", .string "KFlatModule"), ("name", .string name), ("imports", .array imports),
    ("localSentences", .array sentences), ("att", attributes (object entries))]

/-- The attributes of the productions of cells. -/
def cell : List (String × Json) := [("cell", .string ""), ("cellName", .string "k")]

def integers : Json :=
  flatModule "INT" []
    [production "_+Int_" "Int" [nonTerminal "Int", terminal "+Int", nonTerminal "Int"]
      [("function", .string "")]]
    (sourceMap 1)

def statements : Json :=
  flatModule "IMP-SYNTAX" []
    [production "inc" "KItem" [terminal "inc", nonTerminal "Int"] [],
     object [("node", .string "KSyntaxSort"), ("sort", sort "KItem"), ("params", .array []),
       ("att", attributes (object []))]]
    []

def language : Json :=
  flatModule "IMP"
    [.string "IMP-SYNTAX",
     object [("node", .string "KImport"), ("name", .string "INT"), ("isPublic", .bool true)]]
    [production "<generatedTop>" "GeneratedTopCell"
       [terminal "<generatedTop>", nonTerminal "KCell", nonTerminal "StateCell",
        terminal "</generatedTop>"] cell,
     production "<k>" "KCell" [terminal "<k>", nonTerminal "K", terminal "</k>"] cell,
     production "<state>" "StateCell" [terminal "<state>", nonTerminal "Map", terminal "</state>"]
       cell,
     instrumentedRule, plainRule]
    []

/-- The term of the sample definition. -/
def definition : Json :=
  object [("node", .string "KDefinition"), ("mainModule", .string "IMP"),
    ("att", attributes (object [])), ("modules", .array [integers, statements, language])]

/-- The first rule in a coverage log. -/
def instrumentedRuleText : String :=
  "rule <generatedTop>\n       <k>\n         inc X => X +Int 1\n         ~> REST\n" ++
    "       </k>\n       ...\n     </generatedTop>\n  [UNIQUE_ID(R1)]"

/-- The second rule in a coverage log. -/
def plainRuleText : String := "rule inc X => X +Int 1\n  [UNIQUE_ID(R2)]"

/-- Makes a definition directory that holds the sample definition at both stages. -/
def writeDefinitionDirectory (fs : FileSystem) (root name : String) :
    Except SystemError (String × FileSystem) :=
  let directory := Path.join root name
  match fs.makeDirectories directory with
  | .error e => .error e
  | .ok fs =>
    match Document.write fs (Path.join directory "parsed.json") definition with
    | .error e => .error e
    | .ok fs =>
      match Document.write fs (Path.join directory "compiled.json") definition with
      | .error e => .error e
      | .ok fs => .ok (directory, fs)

/-- Writes a coverage file with an identifier on each line. -/
def writeCoverageFile (fs : FileSystem) (path : String) (ids : List String) :
    Except SystemError FileSystem :=
  fs.write path (Utf8.encode (Text.join ['\n'] (ids.map String.toList) ++ ['\n']))

end KDispatch.Sample
