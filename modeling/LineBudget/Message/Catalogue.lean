/-! The messages to the user in each language. A pair of braces is a place for an argument. -/
namespace LineBudget.Message

inductive Locale where
  | en
  | ja
  deriving DecidableEq, Repr

def Locale.name : Locale → String
  | .en => "en"
  | .ja => "ja"

structure Unsupported where
  name : String
  deriving DecidableEq, Repr

def Unsupported.message (u : Unsupported) : String := s!"unsupported language: {u.name}"

def Locale.ofName (name : String) : Except Unsupported Locale :=
  match [Locale.en, .ja].find? (·.name = name) with
  | some locale => .ok locale
  | none => .error ⟨name⟩

def english : List (String × String) := [
  ("check.warn", "WARN  \x7b\x7d (\x7b\x7d lines, limit: \x7b\x7d)"),
  ("check.error", "ERROR \x7b\x7d (\x7b\x7d lines, limit: \x7b\x7d)"),
  ("check.summary", "Results: \x7b\x7d error(s), \x7b\x7d warning(s), \x7b\x7d passed"),
  ("init.created", "Created .linecap.yml"),
  ("init.overwrite", ".linecap.yml already exists. Overwrite?"),
  ("init.overwritten", "Overwrote .linecap.yml"),
  ("init.cancelled", "Kept the existing .linecap.yml"),
  ("ignore.both_defined", "Both .linecapignore and ignore in config file are defined. .linecapignore takes precedence. ignore in config file is ignored."),
  ("version.info", "linecap \x7b\x7d (Python \x7b\x7d, \x7b\x7d/\x7b\x7d)"),
  ("validation.rules_required", "\"rules\" section is required"),
  ("validation.max_lines_per_file", "\"max_lines_per_file\" must be a positive integer"),
  ("validation.max_lines_per_directory", "\"max_lines_per_directory\" must be a positive integer"),
  ("validation.warning_threshold", "\"warning_threshold\" must be between 0 and 100"),
  ("validation.count_mode", "\"count_mode\" must be \"all\" or \"code_only\""),
  ("validation.language", "\"language\" must be \"en\" or \"ja\""),
  ("err.config_not_found", "Config file not found. Run 'linecap init' to create one."),
  ("err.config_parse", "Failed to parse config file: \x7b\x7d"),
  ("err.ignore_read", "Failed to read ignore file: \x7b\x7d"),
  ("err.scan", "Failed to scan files: \x7b\x7d"),
  ("err.count", "Failed to count lines: \x7b\x7d"),
  ("err.write_config", "Failed to write config file: \x7b\x7d"),
  ("err.unexpected", "Unexpected error (\x7b\x7d): \x7b\x7d")]

def japanese : List (String × String) := [
  ("check.warn", "WARN  \x7b\x7d (\x7b\x7d 行, 上限: \x7b\x7d)"),
  ("check.error", "ERROR \x7b\x7d (\x7b\x7d 行, 上限: \x7b\x7d)"),
  ("check.summary", "結果: \x7b\x7d エラー, \x7b\x7d 警告, \x7b\x7d パス"),
  ("init.created", ".linecap.yml を作成しました"),
  ("init.overwrite", ".linecap.yml は既に存在します。上書きしますか？"),
  ("init.overwritten", ".linecap.yml を上書きしました"),
  ("init.cancelled", "既存の .linecap.yml を保持しました"),
  ("ignore.both_defined", ".linecapignore と設定ファイルの ignore が両方定義されています。 .linecapignore が優先されます。設定ファイルの ignore は無視されます。"),
  ("version.info", "linecap \x7b\x7d (Python \x7b\x7d, \x7b\x7d/\x7b\x7d)"),
  ("validation.rules_required", "\"rules\" セクションが必要です"),
  ("validation.max_lines_per_file", "\"max_lines_per_file\" は正の整数である必要があります"),
  ("validation.max_lines_per_directory", "\"max_lines_per_directory\" は正の整数である必要があります"),
  ("validation.warning_threshold", "\"warning_threshold\" は 0 から 100 の範囲である必要があります"),
  ("validation.count_mode", "\"count_mode\" は \"all\" または \"code_only\" である必要があります"),
  ("validation.language", "\"language\" は \"en\" または \"ja\" である必要があります"),
  ("err.config_not_found", "設定ファイルが見つかりません。'linecap init' を実行して作成してください。"),
  ("err.config_parse", "設定ファイルの解析に失敗しました: \x7b\x7d"),
  ("err.ignore_read", "除外ファイルの読み込みに失敗しました: \x7b\x7d"),
  ("err.scan", "ファイルの走査に失敗しました: \x7b\x7d"),
  ("err.count", "行数のカウントに失敗しました: \x7b\x7d"),
  ("err.write_config", "設定ファイルの書き込みに失敗しました: \x7b\x7d"),
  ("err.unexpected", "予期しないエラー (\x7b\x7d): \x7b\x7d")]

def catalogue : Locale → List (String × String)
  | .en => english
  | .ja => japanese

end LineBudget.Message
