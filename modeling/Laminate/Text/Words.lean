import Laminate.Text.Split

/-! Splitting names into words and joining words in the usual case styles.
A word ends before a character that is neither letter nor digit, between a lower-case and an
upper-case letter, and before the last capital of a run of capitals that continues in lower case. -/
namespace Laminate.Text

/-- Case of the letters read so far in the current word. -/
inductive Hump where
  | fresh
  | lower
  | upper
  deriving DecidableEq, Repr

/-- Caseless characters keep the case of what precedes them. -/
def Hump.next (hump : Hump) (c : Char) : Hump :=
  if isLower c then .lower else if isUpper c then .upper else hump

/-- The words of a run of letters and digits; `word` is what the current one holds so far. -/
def humps (hump : Hump) (word : List Char) : List Char → List (List Char)
  | [] => []
  | [c] => [word ++ [c]]
  | c :: after :: rest =>
    if hump.next c = .lower ∧ isUpper after then
      (word ++ [c]) :: humps .fresh [] (after :: rest)
    else if hump = .upper ∧ isUpper c ∧ isLower after then
      word :: humps .fresh [c] (after :: rest)
    else
      humps (hump.next c) (word ++ [c]) (after :: rest)

/-- The words of a name. -/
def words (name : List Char) : List (List Char) :=
  (splitAt (fun c => !isAlphanumeric c) name).flatMap (humps .fresh [])

theorem humps_flatten (hump : Hump) (word run : List Char) (h : run ≠ []) :
    (humps hump word run).flatten = word ++ run := by
  induction run generalizing hump word with
  | nil => contradiction
  | cons c rest ih =>
    cases rest with
    | nil => simp [humps]
    | cons after rest =>
      simp only [humps]
      split
      · simp [ih .fresh [] (by simp)]
      · split
        · simp [ih .fresh [c] (by simp)]
        · simp [ih _ (word ++ [c]) (by simp)]

/-- Lower case; a sigma that closes the word takes its final form. -/
def lowerWord : List Char → List Char
  | [] => []
  | ['Σ'] => ['ς']
  | c :: rest => lowerForm c ++ lowerWord rest

def upperWord (word : List Char) : List Char := word.flatMap upperForm

def capitalized : List Char → List Char
  | [] => []
  | c :: rest => upperForm c ++ lowerWord rest

/-- Words joined by a separator. -/
def joined (separator : List Char) (parts : List (List Char)) : String :=
  String.ofList (separator.intercalate parts)

/-- Lower-case words with underscores between them. -/
def snakeCase (name : String) : String := joined ['_'] ((words name.toList).map lowerWord)

/-- Upper-case words with underscores between them. -/
def shoutyCase (name : String) : String := joined ['_'] ((words name.toList).map upperWord)

/-- Capitalized words without a separator. -/
def upperCamelCase (name : String) : String := joined [] ((words name.toList).map capitalized)

/-- Capitalized words with hyphens between them. -/
def trainCase (name : String) : String := joined ['-'] ((words name.toList).map capitalized)

/-- A lower-case word followed by capitalized ones. -/
def lowerCamelCase (name : String) : String :=
  match words name.toList with
  | [] => ""
  | first :: rest => joined [] (lowerWord first :: rest.map capitalized)

example : words "HTTPServer_v2Id".toList =
    ["HTTP".toList, "Server".toList, "v2".toList, "Id".toList] := by decide +kernel

example : snakeCase "CreatedAt" = "created_at" ∧ lowerCamelCase "user_ref" = "userRef" ∧
    trainCase "x_request_id" = "X-Request-Id" ∧ shoutyCase "UserRole" = "USER_ROLE" := by
  decide +kernel

end Laminate.Text
