import StyleInline.Exports.Basic
import StyleInline.Host

/-!
The configuration: the root directory that is handed to providers, and where exports come from.
-/
namespace StyleInline

/-- Where exports come from: a file beside each stylesheet, or the configuration itself. -/
inductive Supply where
  | sidecar
  | inline (table : StyleTable)

structure Config where
  root? : Option Path
  supply : Supply

namespace Config

/-- No root, and files beside the stylesheets. -/
def standard : Config := ⟨none, .sidecar⟩

/-- The configured root, or else the directory the host works in. -/
def rootFor (config : Config) (host : Host) : Option Path :=
  config.root?.or host.workdir?

end Config
end StyleInline
