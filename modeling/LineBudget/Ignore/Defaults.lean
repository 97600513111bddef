/-! The patterns that exclude what is rarely written by hand. -/
namespace LineBudget.Ignore

def defaultPatterns : List String := [
  -- version control, build output, generated files, editors
  ".git/", "dist/", "build/", "out/", "*.min.js", "*.min.css", "*.lock", "*-lock.*", "*.gen.*",
  "*.generated.*", ".idea/", ".vscode/", ".claude/", ".cursor/", ".gemini/", ".cache/",
  -- packages and caches of web tools
  "node_modules/", "bower_components/", ".next/", ".nuxt/", ".svelte-kit/", ".angular/",
  ".turbo/", ".parcel-cache/", ".vite/", "coverage/",
  -- vendored and generated code
  "vendor/", "ent/",
  -- targets
  "target/",
  -- compiled scripts, environments, caches of test tools
  "__pycache__/", "*.pyc", "*.pyo", ".venv/", "venv/", "env/", "*.egg-info/", ".eggs/",
  ".mypy_cache/", ".pytest_cache/", ".tox/"]

end LineBudget.Ignore
