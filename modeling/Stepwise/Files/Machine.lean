import Stepwise.Files.Change

/-!
# The machine

The places that are there before any program runs: the usual directories, the devices, and the
channels of the program.
-/

namespace Stepwise.FileTree

/-- The usual directories. -/
def usualDirectories : List Text :=
  List.map String.toList
    ["/boot", "/dev", "/dev/pts", "/dev/shm", "/etc", "/home", "/media", "/mnt", "/opt", "/proc",
     "/proc/self", "/proc/self/fd", "/proc/sys", "/proc/sys/kernel", "/root", "/run", "/srv",
     "/sys", "/sys/kernel", "/tmp", "/usr", "/usr/bin", "/usr/games", "/usr/include", "/usr/lib",
     "/usr/lib64", "/usr/local", "/usr/local/bin", "/usr/local/lib", "/usr/local/sbin",
     "/usr/sbin", "/usr/share", "/usr/src", "/var", "/var/cache", "/var/lib", "/var/log",
     "/var/tmp"]

/-- The directories in which everybody may put something that is theirs. -/
def sharedDirectories : List Text := ["/dev/shm".toList, "/tmp".toList, "/var/tmp".toList]

/-- The places that lead on to usual places. -/
def usualLinks : List (Text × Text) :=
  List.map (fun (place, target) => (String.toList place, String.toList target))
    [("/bin", "usr/bin"), ("/sbin", "usr/sbin"), ("/lib", "usr/lib"), ("/lib64", "usr/lib64"),
     ("/dev/fd", "/proc/self/fd"), ("/dev/stdin", "/proc/self/fd/0"),
     ("/dev/stdout", "/proc/self/fd/1"), ("/dev/stderr", "/proc/self/fd/2"),
     ("/proc/self/root", "/"), ("/var/run", "/run")]

/-- The devices. -/
def devices : List (Text × Device) :=
  List.map (fun (place, d) => (String.toList place, d))
    [("/dev/null", .null), ("/dev/zero", .zero), ("/dev/random", .zero), ("/dev/urandom", .zero),
     ("/dev/full", .full), ("/dev/tty", .terminal)]

/-- The path of a spelling without links. -/
def pathOf (spelling : Text) : Path := Spelling.parts spelling

/-- The directory of the channels of a program. -/
def channels : Path := pathOf "/proc/self/fd"

/-- The place of a channel. -/
def channelPath (n : Nat) : Path := channels ++ [Text.ofNat n]

/-- The numbers of the standard channels. -/
def standardChannels : List Nat := [0, 1, 2]

/-- Files that every machine has. -/
def usualFiles : List (Text × Text) :=
  List.map (fun (place, contents) => (String.toList place, String.toList contents))
    [("/etc/passwd", "root:x:0:0:root:/root:/bin/bash\n"), ("/etc/group", "root:x:0:\n"),
     ("/etc/hosts", "127.0.0.1\tlocalhost\n"), ("/etc/hostname", "localhost\n"),
     ("/etc/resolv.conf", "nameserver 127.0.0.1\n"), ("/etc/os-release", "ID=linux\n"),
     ("/etc/shells", "/bin/sh\n"), ("/etc/fstab", "# UNCONFIGURED FSTAB FOR BASE SYSTEM\n"),
     ("/proc/version", "Linux version\n"), ("/proc/cpuinfo", "processor\t: 0\n"),
     ("/proc/meminfo", "MemTotal: 1 kB\n"), ("/proc/uptime", "1.00 1.00\n"),
     ("/proc/loadavg", "0.00 0.00 0.00 1/1 1\n"), ("/proc/stat", "cpu 0\n"),
     ("/proc/mounts", "proc /proc proc rw 0 0\n"), ("/proc/filesystems", "nodev\tproc\n"),
     ("/proc/cmdline", "root=/\n"), ("/proc/self/status", "Name:\tcppstep\n"),
     ("/proc/self/comm", "cppstep\n"), ("/proc/self/cmdline", "cppstep\x00"),
     ("/proc/self/environ", "PATH=/usr/bin\x00"), ("/proc/self/stat", "1 (cppstep) R\n"),
     ("/proc/self/maps", "00400000-00401000 r-xp\n"), ("/proc/self/mounts", "proc /proc\n"),
     ("/proc/sys/kernel/ostype", "Linux\n"), ("/proc/sys/kernel/osrelease", "6.0.0\n"),
     ("/proc/sys/kernel/hostname", "localhost\n")]

/-- A machine on which no program has run, with a directory in which spellings begin. -/
def machine (directory : Text) : FileTree where
  current := pathOf directory
  entries :=
    usualDirectories.map (fun place =>
        (pathOf place,
          .directory (if sharedDirectories.contains place then 0o1777 else directoryMode)))
      ++ [(pathOf "/proc/self/cwd", .link directory)]
      ++ usualLinks.map (fun (place, target) => (pathOf place, .link target))
      ++ usualFiles.map (fun (place, t) => (pathOf place, .file (Utf8.encode t) 0o644))
      ++ devices.map (fun (place, d) => (pathOf place, .device d))
      ++ standardChannels.map (fun n => (channelPath n, .channel [] []))

/-- What was written to a channel as a place. -/
def writtenTo (t : FileTree) (n : Nat) : Bytes :=
  match t.at? (channelPath n) with
  | some (.channel _ written) => written
  | _ => []

/-- The channel that a spelling means, if it means one. -/
def channelOf? (t : FileTree) (spelling : Text) : Option Nat :=
  match t.resolve spelling with
  | .ok path =>
    if path.length = channels.length + 1 ∧ path.dropLast = channels then
      path.getLast?.bind fun n => (Text.readNat UInt32.size n).toOption
    else none
  | .error _ => none

/-- A machine with files in its directory, given with their spellings. -/
def ofFiles (directory : Text) (files : List (Text × Bytes)) : FileTree :=
  (((machine directory).makeDirectories directory).1).addFiles files

end Stepwise.FileTree
