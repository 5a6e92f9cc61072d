/-! # Directories every recipe knows

BitBake defines these directory variables for every recipe. A shell task uses them without assigning
them. -/

namespace RecipeDiag

def commonDirectories : List String := [
  "TOPDIR", "COREBASE", "TMPDIR", "CACHE", "PERSISTENT_DIR", "BASE_WORKDIR", "WORKDIR",
  "UNPACKDIR", "T", "D", "S", "B", "FILE_DIRNAME", "THISDIR", "FILESDIR", "DL_DIR", "SSTATE_DIR",
  "STAMPS_DIR", "LOG_DIR", "DEPLOY_DIR", "DEPLOY_DIR_IMAGE", "DEPLOY_DIR_DEB", "DEPLOY_DIR_IPK",
  "DEPLOY_DIR_RPM", "DEPLOY_DIR_TAR", "DEPLOYDIR", "PKGD", "PKGDEST", "PKGDESTWORK",
  "PKGDATA_DIR", "PKG_CONFIG_SYSROOT_DIR", "IMAGE_ROOTFS", "SDK_DIR", "STAGING_DIR",
  "STAGING_DIR_HOST", "STAGING_DIR_NATIVE", "STAGING_DIR_TARGET", "STAGING_BINDIR",
  "STAGING_BINDIR_NATIVE", "STAGING_BINDIR_TOOLCHAIN", "STAGING_DATADIR",
  "STAGING_DATADIR_NATIVE", "STAGING_ETCDIR_NATIVE", "STAGING_INCDIR", "STAGING_KERNEL_DIR",
  "STAGING_LIBDIR", "STAGING_LIBDIR_NATIVE", "RECIPE_SYSROOT", "RECIPE_SYSROOT_NATIVE", "prefix",
  "exec_prefix", "base_prefix", "root_prefix", "bindir", "sbindir", "libdir", "libexecdir",
  "datadir", "sysconfdir", "servicedir", "sharedstatedir", "localstatedir", "infodir", "mandir",
  "docdir", "includedir", "nonarch_libdir", "nonarch_base_libdir", "base_bindir", "base_sbindir",
  "base_libdir", "systemd_unitdir", "systemd_system_unitdir", "systemd_user_unitdir"]

/-- Whether a variable names a directory that every recipe knows. -/
def isCommonDirectory (name : String) : Bool := commonDirectories.contains name

end RecipeDiag
