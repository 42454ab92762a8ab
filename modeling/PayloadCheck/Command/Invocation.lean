import PayloadCheck.Command.Options

/-!
# Invocations

What a caller asks the program to do: check a payload against a rule file, list the rules, or
nothing. Options of the program stand in front of the command, those of a command behind it.
-/

namespace PayloadCheck.Command

open PayloadCheck.Text

/-- How the result of a check is connected to a database. -/
structure DatabaseOptions where
  host : Option String := none
  port : Option Int := none
  database : Option String := none
  user : Option String := none
  password : Option String := none
  schema : Option String := none
deriving DecidableEq, Repr

/-- The form of the output. -/
inductive OutputForm where
  | text
  | json
deriving DecidableEq, Repr

/-- What a check needs. -/
structure CheckOptions where
  rules : String
  data : String
  form : OutputForm := .text
  envFile : Option String := none
  withDatabase : Bool := false
  database : DatabaseOptions := {}
  metricsFile : Option String := none
deriving DecidableEq, Repr

/-- What is to be done. -/
inductive Task where
  | check (options : CheckOptions)
  | listRules (form : OutputForm)
  | nothing
deriving DecidableEq, Repr

/-- A task, and how the program keeps its log. -/
structure Invocation where
  logLevel : Option String := none
  logForm : String := "json"
  task : Task
deriving DecidableEq, Repr

/-! ## The grammars -/

/-- The option that asks for help. -/
def helpSwitch : Switch := { names := ["-h", "--help"], takes := .help }

/-- The option for a form. -/
def formSwitch (name : String) : Switch := { names := [name], takes := .oneOf ["json", "text"] }

/-- The help of the program. -/
def programHelp : String :=
  "usage: fieldrules [-h] [--log-level LOG_LEVEL] [--log-format \x7bjson,text\x7d]
                  \x7bcheck,list-rules\x7d ...

Validate JSON payloads against declarative rule sets

positional arguments:
  \x7bcheck,list-rules\x7d    Available commands
    check               Validate a payload against a rule set
    list-rules          List the built-in rules

options:
  -h, --help            show this help message and exit
  --log-level LOG_LEVEL
                        Log level (default: LOG_LEVEL env var or WARNING)
  --log-format \x7bjson,text\x7d
                        Log record format (default: json)
"

/-- The help of the check. -/
def checkHelp : String :=
  "usage: fieldrules check [-h] --rules RULES --data DATA [--format \x7bjson,text\x7d]
                        [--env-file ENV_FILE] [--with-database]
                        [--db-host DB_HOST] [--db-port DB_PORT]
                        [--db-name DB_NAME] [--db-user DB_USER]
                        [--db-password DB_PASSWORD] [--db-schema DB_SCHEMA]
                        [--metrics-file METRICS_FILE]

options:
  -h, --help            show this help message and exit
  --rules RULES         YAML rule set file
  --data DATA           JSON payload file, or - for stdin
  --format \x7bjson,text\x7d  Output format (default: text)
  --env-file ENV_FILE   Load environment variables (DB_* settings) from this
                        file
  --with-database       Enable unique/exists rules through a PostgreSQL
                        presence verifier
  --db-host DB_HOST     Database host (default: DB_HOST)
  --db-port DB_PORT     Database port (default: DB_PORT)
  --db-name DB_NAME     Database name (default: DB_NAME)
  --db-user DB_USER     Database user (default: DB_USER)
  --db-password DB_PASSWORD
                        Database password (default: DB_PASSWORD)
  --db-schema DB_SCHEMA
                        Schema qualifying table names
  --metrics-file METRICS_FILE
                        Write Prometheus metrics in text format to this file
                        after the check
"

/-- The help of the list of rules. -/
def listHelp : String :=
  "usage: fieldrules list-rules [-h] [--format \x7bjson,text\x7d]

options:
  -h, --help            show this help message and exit
  --format \x7bjson,text\x7d  Output format (default: text)
"

/-- The grammar of the program. -/
def programGrammar : Grammar where
  program := "fieldrules"
  switches := [helpSwitch, { names := ["--log-level"] }, formSwitch "--log-format"]
  commands := ["check", "list-rules"]
  help := programHelp

/-- The grammar of the check. -/
def checkGrammar : Grammar where
  program := "fieldrules check"
  switches :=
    [helpSwitch, { names := ["--rules"], required := true },
     { names := ["--data"], required := true }, formSwitch "--format", { names := ["--env-file"] },
     { names := ["--with-database"], takes := .mark }, { names := ["--db-host"] },
     { names := ["--db-port"], takes := .whole }, { names := ["--db-name"] },
     { names := ["--db-user"] }, { names := ["--db-password"] }, { names := ["--db-schema"] },
     { names := ["--metrics-file"] }]
  help := checkHelp

/-- The grammar of the list of rules. -/
def listGrammar : Grammar where
  program := "fieldrules list-rules"
  switches := [helpSwitch, formSwitch "--format"]
  help := listHelp

/-! ## Reading an invocation -/

/-- The form that a line asks for. -/
def formOf (l : Grammar.Line) : OutputForm :=
  if l.text? "--format" = some "json" then .json else .text

/-- The options of a check. -/
def checkOptions (l : Grammar.Line) : CheckOptions where
  rules := (l.text? "--rules").getD ""
  data := (l.text? "--data").getD ""
  form := formOf l
  envFile := l.text? "--env-file"
  withDatabase := l.has "--with-database"
  database :=
    { host := l.text? "--db-host", port := l.whole? "--db-port", database := l.text? "--db-name"
      user := l.text? "--db-user", password := l.text? "--db-password"
      schema := l.text? "--db-schema" }
  metricsFile := l.text? "--metrics-file"

/-- Reads the words of a command; gives also the words that are left over. -/
def readTask (name : String) (words : List String) : Except Stop (Task × List String) := do
  if name == "check" then
    let l ← checkGrammar.read words
    return (.check (checkOptions l), l.extra)
  else
    let l ← listGrammar.read words
    return (.listRules (formOf l), l.extra)

/-- Reads a command line. -/
def Invocation.ofWords (words : List String) : Except Stop Invocation := do
  let l ← programGrammar.read words
  let (task, extra) ← match l.command with
    | some (name, rest) => readTask name rest
    | none => pure (.nothing, [])
  match l.extra ++ extra with
  | [] =>
    return { logLevel := l.text? "--log-level", logForm := (l.text? "--log-format").getD "json", task }
  | left =>
    let shown := joinTexts " " left
    programGrammar.wrong s!"unrecognized arguments: {shown}"

end PayloadCheck.Command
