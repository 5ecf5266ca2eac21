import CodeHealth.Service.Call
import CodeHealth.Text.Quoted

/-! A client in words, for a look inside. The token never appears, only whether there is one. -/
namespace CodeHealth.Client

def describe (c : Client) : String :=
  "ClientContext \x7b base_url: " ++ Text.Quoted.quote c.baseUrl ++ ", has_token: " ++
    (if c.token.isSome then "true" else "false") ++ " \x7d"

def describeWhole (c : Client) : String := "ApiClient \x7b ctx: " ++ c.describe ++ " \x7d"

end CodeHealth.Client
