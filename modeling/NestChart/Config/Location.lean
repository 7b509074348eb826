import NestChart.Text.Basic
import NestChart.Text.Word

/-!
# NestChart.Config.Location

Where the configuration file lies: at the path that a variable of the environment names, else in
the home directory. The path may name the home directory by `~` and other variables by `$`.
-/

namespace NestChart.Config

/-- The variables of an environment; of two with one name the first counts. -/
abbrev Environment := List (Chars × Chars)

/-- The variable that names the configuration file. -/
def overrideName : Chars := "BLOCKFLOW_CONFIG".toList

/-- The variable that names the home directory. -/
def homeName : Chars := "HOME".toList

/-- Cuts at the first `:-`. -/
def cutDefault? : Chars → Option (Chars × Chars)
  | [] => none
  | ':' :: '-' :: cs => some ([], cs)
  | c :: cs => (cutDefault? cs).map fun r => (c :: r.1, r.2)

/-- The value of what stands between braces: a variable, or its default if it is not set. -/
def bracedValue? (env : Environment) (content : Chars) : Option Chars :=
  match cutDefault? content with
  | some (name, ifUnset) =>
    -- Without a name in front there is no default, and the whole is a name.
    if name.isEmpty then env.lookup content else some ((env.lookup name).getD ifUnset)
  | none => env.lookup content

theorem length_tail_dropWhile_lt (p : Char → Bool) (cs rest : Chars) (c : Char)
    (h : cs.dropWhile p = c :: rest) : rest.length < cs.length := by
  have := (List.dropWhile_sublist p (l := cs)).length_le
  rw [h] at this
  exact Nat.lt_of_succ_le this

/-- Replaces variables by their values. A variable that is not set spoils the whole; a dollar sign
that begins no reference stays, and two of them make one. -/
def expandVariables? (env : Environment) : Chars → Option Chars
  | [] => some []
  | '$' :: '\x7b' :: rest =>
    match _h : rest.dropWhile (· ≠ '\x7d') with
    | [] => (expandVariables? env rest).map (['$', '\x7b'] ++ ·)
    | _ :: tail =>
      match bracedValue? env (rest.takeWhile (· ≠ '\x7d')) with
      | some value => (expandVariables? env tail).map (value ++ ·)
      | none => none
  | '$' :: '$' :: rest => (expandVariables? env rest).map ('$' :: ·)
  | '$' :: c :: rest =>
    if isWord c then
      match env.lookup (c :: rest.takeWhile isWord) with
      | some value => (expandVariables? env (rest.dropWhile isWord)).map (value ++ ·)
      | none => none
    else (expandVariables? env (c :: rest)).map ('$' :: ·)
  | c :: rest => (expandVariables? env rest).map (c :: ·)
termination_by cs => cs.length
decreasing_by
  · simp only [List.length_cons]; omega
  · have := length_tail_dropWhile_lt _ _ _ _ _h
    simp only [List.length_cons]; omega
  · simp only [List.length_cons]; omega
  · have := (List.dropWhile_sublist isWord (l := rest)).length_le
    simp only [List.length_cons]; omega
  · simp
  · simp

/-- Replaces `~` at the head, alone or before a slash, by the home directory. -/
def expandHome (home path : Chars) : Chars :=
  match path with
  | ['~'] => home
  | '~' :: '/' :: rest => home ++ '/' :: rest
  | _ => path

/-- Replaces variables and then the home directory. A `~` that comes out of a variable stays. -/
def expand? (env : Environment) (path : Chars) : Option Chars :=
  (expandVariables? env path).map fun expanded =>
    if path.head? = some '~' then expandHome ((env.lookup homeName).getD ['~']) expanded
    else expanded

/-- The file in the home directory. -/
def standardPath (env : Environment) : Chars :=
  (env.lookup homeName).getD ['~'] ++ "/.config/blockflow/config.toml".toList

/-- The path of the configuration file. A path that cannot be expanded is taken as it is. -/
def path (env : Environment) : Chars :=
  match env.lookup overrideName with
  | none => standardPath env
  | some given =>
    if given.isEmpty then standardPath env else (expand? env given).getD given

end NestChart.Config
