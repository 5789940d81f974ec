/-
  Passcode.Fault — what can go wrong, as causes, and the bilingual text of each cause.

  A fault's text is its English half, a separator and its Chinese half; both halves carry the same
  payload. `errorCode` is the stable machine-readable name. Texts that belong to a connection, a
  server or a data format are reduced to a tag in angle brackets.
-/

import Passcode.Text.Pattern

namespace Passcode

/-- A message in two languages. -/
structure Bilingual where
  english : String
  chinese : String
  deriving DecidableEq, Repr

namespace Bilingual

/-- What stands between the two halves. -/
def separator : String := " | "

/-- Both halves in one text. -/
def text (b : Bilingual) : String := b.english ++ separator ++ b.chinese

/-- The English half of a text: what comes before its first separator. -/
def englishOf (text : String) : String := (Text.split separator text).headD text

/-- The Chinese half of a text: the piece after its first separator, or all of it when there is no
    separator. -/
def chineseOf (text : String) : String := ((Text.split separator text)[1]?).getD text

end Bilingual

/-- Why a code was neither matched nor refused as wrong. -/
inductive CodeFault where
  /-- The last code was issued within the resend cooldown. -/
  | tooFrequent
  /-- The attempts granted to the code are spent. -/
  | tooManyAttempts
  /-- No live code. -/
  | notFound
  /-- The store failed. -/
  | system (message : String)
  deriving DecidableEq, Repr

/-- Why a message was not sent. -/
inductive SendFault where
  | rateLimited
  | allProvidersFailed (attempts : Nat)
  | providerTimeout (provider : String)
  | provider (provider message : String)
  /-- The caller's deadline elapsed. -/
  | cancelled
  | unauthorized (reason : String)
  | invalidRecipient (recipient : String)
  deriving DecidableEq, Repr

/-- Why a session credential was refused. -/
inductive TokenFault where
  | invalidToken
  | fingerprintMismatch
  | sessionRevoked
  | generationFailed
  deriving DecidableEq, Repr

/-- Why a limiter gave no answer. -/
inductive LimitFault where
  | unavailable (message : String)
  deriving DecidableEq, Repr

/-- Everything a service answers instead of a result. -/
inductive Fault where
  | validation (message : String)
  | internal (message : String)
  | deadlineExceeded
  | code (fault : CodeFault)
  | send (fault : SendFault)
  | token (fault : TokenFault)
  deriving DecidableEq, Repr

/-- Faults of the parts behind the services. -/
inductive BackendFault where
  /-- The keyspace server failed or could not be reached. -/
  | cache
  | config (message : String)
  /-- A script answered with a value outside its contract. -/
  | unexpectedReply (message : String)
  deriving DecidableEq, Repr

namespace CodeFault

def message : CodeFault → Bilingual
  | tooFrequent => ⟨"Verification code requested too frequently", "验证码发送太频繁"⟩
  | tooManyAttempts =>
    ⟨"Too many verification attempts. Please request a new code", "验证次数过多，请重新获取验证码"⟩
  | notFound => ⟨"Verification code not found or expired", "验证码不存在或已过期"⟩
  | system m => ⟨"Code store failure: " ++ m, "验证码存储故障: " ++ m⟩

def errorCode : CodeFault → String
  | tooFrequent => "SEND_TOO_FREQUENT"
  | tooManyAttempts => "VERIFY_TOO_MANY_ATTEMPTS"
  | notFound => "CODE_NOT_FOUND"
  | system _ => "SYSTEM_ERROR"

end CodeFault

namespace SendFault

def message : SendFault → Bilingual
  | rateLimited => ⟨"Message rate limit reached", "短信发送已被限流"⟩
  | allProvidersFailed n =>
    ⟨"All " ++ toString n ++ " SMS providers failed", "全部 " ++ toString n ++ " 个短信服务商发送失败"⟩
  | providerTimeout p => ⟨"SMS provider " ++ p ++ " timed out", "短信服务商 " ++ p ++ " 超时"⟩
  | provider p m =>
    ⟨"SMS provider " ++ p ++ " failed: " ++ m, "短信服务商 " ++ p ++ " 发送失败: " ++ m⟩
  | cancelled => ⟨"Message dispatch cancelled by caller", "调用方已取消发送"⟩
  | unauthorized r => ⟨"Template not authorized: " ++ r, "短信模板未授权: " ++ r⟩
  | invalidRecipient r => ⟨"Invalid recipient: " ++ r, "无效的接收号码: " ++ r⟩

def errorCode : SendFault → String
  | rateLimited => "RATE_LIMITED"
  | allProvidersFailed _ => "ALL_PROVIDERS_FAILED"
  | providerTimeout _ => "PROVIDER_TIMEOUT"
  | provider _ _ => "PROVIDER_ERROR"
  | cancelled => "CANCELLED"
  | unauthorized _ => "TEMPLATE_UNAUTHORIZED"
  | invalidRecipient _ => "INVALID_RECIPIENT"

/-- Timeouts count against the provider that is in use. -/
def isTimeout : SendFault → Bool
  | providerTimeout _ => true
  | _ => false

/-- Whether another attempt may end differently. Cancellation, throttling, a refused template and a
    bad recipient would fail the same way again. -/
def isRetryable : SendFault → Bool
  | allProvidersFailed _ | providerTimeout _ | provider _ _ => true
  | _ => false

end SendFault

namespace TokenFault

def message : TokenFault → Bilingual
  | invalidToken => ⟨"Invalid or expired token", "无效或已过期的令牌"⟩
  | fingerprintMismatch => ⟨"Token used from a different client", "令牌与客户端不匹配"⟩
  | sessionRevoked => ⟨"Session has been revoked. Please login again", "会话已注销，请重新登录"⟩
  | generationFailed => ⟨"Token generation failed", "令牌生成失败"⟩

def errorCode : TokenFault → String
  | invalidToken => "INVALID_TOKEN"
  | fingerprintMismatch => "FINGERPRINT_MISMATCH"
  | sessionRevoked => "SESSION_REVOKED"
  | generationFailed => "TOKEN_GENERATION_FAILED"

end TokenFault

namespace LimitFault

def message : LimitFault → Bilingual
  | unavailable m => ⟨"Rate limiter unavailable: " ++ m, "限流服务不可用: " ++ m⟩

def errorCode : LimitFault → String
  | unavailable _ => "LIMITER_UNAVAILABLE"

end LimitFault

namespace BackendFault

/-- Backend faults have one text; they are bilingual only inside a service's fault. -/
def text : BackendFault → String
  | cache => "<cache error>"
  | config m => "Configuration error: " ++ m
  | unexpectedReply m => "Unexpected reply: " ++ m

def errorCode : BackendFault → String
  | cache => "CACHE"
  | config _ => "CONFIG"
  | unexpectedReply _ => "UNEXPECTED_REPLY"

/-- A backend fault as a code store reports it. -/
def toCodeFault (b : BackendFault) : CodeFault := .system b.text

/-- A backend fault as a service reports it. -/
def toFault (b : BackendFault) : Fault := .internal b.text

end BackendFault

namespace Fault

def message : Fault → Bilingual
  | validation m => ⟨"Validation error: " ++ m, "参数校验失败: " ++ m⟩
  | internal m => ⟨"Internal error: " ++ m, "内部错误: " ++ m⟩
  | deadlineExceeded => ⟨"Request deadline exceeded", "请求已超时"⟩
  | code f => f.message
  | send f => f.message
  | token f => f.message

def errorCode : Fault → String
  | validation _ => "VALIDATION_ERROR"
  | internal _ => "INTERNAL_ERROR"
  | deadlineExceeded => "DEADLINE_EXCEEDED"
  | code f => f.errorCode
  | send f => f.errorCode
  | token f => f.errorCode

/-- Outcomes that the rules of the service foresee, as opposed to failures. -/
def isPolicyViolation : Fault → Bool
  | code .tooFrequent | code .tooManyAttempts | send .rateLimited | token .sessionRevoked => true
  | _ => false

end Fault

end Passcode
