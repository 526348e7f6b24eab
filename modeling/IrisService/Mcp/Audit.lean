import IrisService.Mcp.Auth

/-! `mcp/audit.py`, and the attribution of a tool call in `mcp/tools.py`. -/

namespace IrisService.Mcp

/-- An argument of a tool. -/
inductive Arg where
  | none
  | int (n : Int)
  | str (s : String)
  | bool (b : Bool)
  | dict (entries : List (String × String))
  deriving DecidableEq, Repr

/-- An optional integer argument. -/
def Arg.ofInt : Option Int → Arg
  | .none => .none
  | some n => .int n

/-- An optional string argument. -/
def Arg.ofStr : Option String → Arg
  | .none => .none
  | some s => .str s

/-- `json.dumps(args, sort_keys=True, default=str)` and the hexadecimal SHA-256 digest of a text. -/
structure Digest where
  dumps : List (String × Arg) → String
  sha256 : String → String

/-- `_hash_args` -/
def hashArgs (digest : Digest) (args : List (String × Arg)) : String :=
  String.ofList ((digest.sha256 (digest.dumps args)).toList.take 8)

/-- The log record of one tool call: its line, and the fields of its `extra`. -/
structure AuditRecord where
  message : String
  toolName : String
  argsHash : String
  user : Option String
  role : Option String
  deriving DecidableEq, Repr

/-- `AUDIT_ACTION` -/
def auditAction : String := "MCP_TOOL_CALL"

/-- `value or default` -/
def orDefault (value : Option String) (default : String) : String :=
  match value with
  | none => default
  | some s => if s = "" then default else s

/-- `record_tool_call`: one log record. -/
def recordToolCall (digest : Digest) (toolName : String) (args : List (String × Arg)) (user role : Option String) :
    AuditRecord where
  message := auditAction ++ " tool=" ++ toolName ++ " args_hash=" ++ hashArgs digest args ++ " user=" ++
    orDefault user "<anonymous>" ++ " role=" ++ orDefault role "<no-role>"
  toolName := toolName
  argsHash := hashArgs digest args
  user := user
  role := role

/-- `_safe_user_role` -/
def safeUserRole (currentUser : Option McpUser) : Option String × Option String :=
  match getCurrentUser currentUser with
  | .error _ => (none, none)
  | .ok user => (some user.username, some user.role)

end IrisService.Mcp
